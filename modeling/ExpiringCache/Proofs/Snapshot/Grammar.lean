import ExpiringCache.Proofs.Except
import ExpiringCache.Snapshot.Format
import Mathlib.Algebra.GroupWithZero.Nat
/-!
# The grammar of snapshot images

Which bytes are a snapshot image, said without reading them: a number of records, then the records,
each a key and a value, each of those the number of its bytes and then the UTF-8 bytes of a text.

Each reader of the format takes exactly what the grammar allows off the front of the bytes and
leaves the rest; `decode_eq_ok_iff` puts them together.
-/

namespace ExpiringCache.Snapshot

/-- Eight bytes that denote the number, the lowest first. -/
def IsWord (bytes : List UInt8) (n : Nat) : Prop :=
  bytes.length = wordSize ∧ ofLittleEndian bytes = n

/-- The number of bytes of the content, then the content. -/
def IsFramed (bytes content : List UInt8) : Prop :=
  ∃ word, IsWord word content.length ∧ bytes = word ++ content

/-- A framed text, in UTF-8. -/
def IsText (bytes : List UInt8) (text : String) : Prop := IsFramed bytes (Utf8.encode text)

def IsRecord (bytes : List UInt8) (record : Record) : Prop :=
  ∃ key value, IsText key record.1 ∧ IsText value record.2 ∧ bytes = key ++ value

inductive AreRecords : List UInt8 → List Record → Prop where
  | nil : AreRecords [] []
  | cons {front rest : List UInt8} {record : Record} {records : List Record} :
    IsRecord front record → AreRecords rest records →
      AreRecords (front ++ rest) (record :: records)

/-- The number of the records, the records, and any bytes after them. -/
def StartsWithImage (bytes : List UInt8) (records : List Record) : Prop :=
  ∃ count body trailing, IsWord count records.length ∧ AreRecords body records ∧
    bytes = count ++ body ++ trailing

theorem takeWord_eq_ok_iff {bytes rest : List UInt8} {n : Nat} :
    takeWord bytes = .ok (n, rest) ↔ ∃ word, IsWord word n ∧ bytes = word ++ rest := by
  rw [takeWord]
  constructor
  · intro h
    split at h
    · cases h
    · rename_i hlength
      obtain ⟨hn, hrest⟩ := Prod.mk.inj (Except.ok.inj h)
      refine ⟨bytes.take wordSize, ⟨?_, hn⟩, ?_⟩
      · rw [List.length_take]
        omega
      · rw [← hrest, List.take_append_drop]
  · rintro ⟨word, ⟨hlength, hn⟩, rfl⟩
    have hlong : ¬(word ++ rest).length < wordSize := by
      rw [List.length_append]
      omega
    rw [if_neg hlong, List.take_left' hlength, List.drop_left' hlength, hn]

theorem takeBytes_eq_ok_iff {bytes content rest : List UInt8} :
    takeBytes bytes = .ok (content, rest) ↔
      ∃ front, IsFramed front content ∧ bytes = front ++ rest := by
  rw [takeBytes, bind_eq_ok_iff]
  constructor
  · rintro ⟨⟨length, later⟩, htake, h⟩
    obtain ⟨word, hword, rfl⟩ := takeWord_eq_ok_iff.1 htake
    by_cases hshort : later.length < length
    · simp only [if_pos hshort] at h
      cases h
    · simp only [if_neg hshort] at h
      obtain ⟨hcontent, hrest⟩ := Prod.mk.inj (Except.ok.inj h)
      have hlength : content.length = length := by
        rw [← hcontent, List.length_take]
        omega
      refine ⟨word ++ content, ⟨word, hlength ▸ hword, rfl⟩, ?_⟩
      rw [List.append_assoc, ← hcontent, ← hrest, List.take_append_drop]
  · rintro ⟨_, ⟨word, hword, rfl⟩, rfl⟩
    refine ⟨(content.length, content ++ rest), ?_, ?_⟩
    · exact takeWord_eq_ok_iff.2 ⟨word, hword, List.append_assoc _ _ _⟩
    · have hlong : ¬(content ++ rest).length < content.length := by
        rw [List.length_append]
        omega
      simp only [if_neg hlong, List.take_left, List.drop_left]
      rfl

theorem takeText_eq_ok_iff {bytes rest : List UInt8} {text : String} :
    takeText bytes = .ok (text, rest) ↔ ∃ front, IsText front text ∧ bytes = front ++ rest := by
  rw [takeText, bind_eq_ok_iff]
  constructor
  · rintro ⟨⟨content, later⟩, hbytes, h⟩
    cases hdecode : Utf8.decode content with
    | error fault =>
        simp only [hdecode] at h
        cases h
    | ok found =>
        simp only [hdecode] at h
        obtain ⟨rfl, rfl⟩ := Prod.mk.inj (Except.ok.inj h)
        obtain rfl := Utf8.decode_eq_ok_iff.1 hdecode
        exact takeBytes_eq_ok_iff.1 hbytes
  · intro h
    refine ⟨(Utf8.encode text, rest), takeBytes_eq_ok_iff.2 h, ?_⟩
    simp only [Utf8.decode_encode]
    rfl

theorem takeRecord_eq_ok_iff {bytes rest : List UInt8} {record : Record} :
    takeRecord bytes = .ok (record, rest) ↔
      ∃ front, IsRecord front record ∧ bytes = front ++ rest := by
  rw [takeRecord, bind_eq_ok_iff]
  constructor
  · rintro ⟨⟨key, later⟩, hkey, h⟩
    obtain ⟨⟨value, last⟩, hvalue, h⟩ := bind_eq_ok_iff.1 h
    obtain ⟨rfl, rfl⟩ := Prod.mk.inj (Except.ok.inj h)
    obtain ⟨first, hfirst, rfl⟩ := takeText_eq_ok_iff.1 hkey
    obtain ⟨second, hsecond, rfl⟩ := takeText_eq_ok_iff.1 hvalue
    exact ⟨first ++ second, ⟨first, second, hfirst, hsecond, rfl⟩,
      (List.append_assoc _ _ _).symm⟩
  · rintro ⟨_, ⟨first, second, hfirst, hsecond, rfl⟩, rfl⟩
    refine ⟨(record.1, second ++ rest), ?_, bind_eq_ok_iff.2 ⟨(record.2, rest), ?_, rfl⟩⟩
    · exact takeText_eq_ok_iff.2 ⟨first, hfirst, List.append_assoc _ _ _⟩
    · exact takeText_eq_ok_iff.2 ⟨second, hsecond, rfl⟩

/-- A scan without a fault has read exactly the wanted records, and nothing of the rest. -/
theorem scan_eq_iff {count : Nat} {bytes rest : List UInt8} {records : List Record} :
    scan count bytes = { records, rest, fault? := none } ↔
      records.length = count ∧ ∃ body, AreRecords body records ∧ bytes = body ++ rest := by
  induction count generalizing bytes records with
  | zero =>
      rw [scan, Scan.mk.injEq, List.length_eq_zero_iff]
      constructor
      · rintro ⟨rfl, rfl, -⟩
        exact ⟨rfl, [], .nil, rfl⟩
      · rintro ⟨rfl, _, hbody, rfl⟩
        cases hbody
        exact ⟨rfl, rfl, rfl⟩
  | succ count ih =>
      rw [scan]
      constructor
      · intro h
        split at h
        · exact (Option.some_ne_none _ (Scan.mk.inj h).2.2).elim
        · rename_i record later hrecord
          obtain ⟨rfl, hrest, hfault⟩ := Scan.mk.inj h
          have hscan : scan count later =
              { records := (scan count later).records, rest, fault? := none } := by
            rw [← hrest, ← hfault]
          obtain ⟨hlength, body, hbody, rfl⟩ := ih.1 hscan
          obtain ⟨front, hfront, rfl⟩ := takeRecord_eq_ok_iff.1 hrecord
          exact ⟨congrArg Nat.succ hlength, front ++ body, .cons hfront hbody,
            (List.append_assoc _ _ _).symm⟩
      · rintro ⟨hlength, _, hbody, rfl⟩
        cases hbody with
        | nil => cases hlength
        | @cons front later _ _ hfront hbody =>
            have hrecord := takeRecord_eq_ok_iff.2
              ⟨front, hfront, List.append_assoc front later rest⟩
            have hscan := ih.2 ⟨Nat.succ.inj hlength, later, hbody, rfl⟩
            rw [hrecord]
            simp only [hscan]

/-- **Reading accepts exactly the grammar.** The bytes decode to the records if they start with an
image of them. -/
theorem decode_eq_ok_iff {bytes : List UInt8} {records : List Record} :
    decode bytes = .ok records ↔ StartsWithImage bytes records := by
  rw [decode, bind_eq_ok_iff]
  constructor
  · rintro ⟨⟨count, later⟩, htake, h⟩
    obtain ⟨word, hword, rfl⟩ := takeWord_eq_ok_iff.1 htake
    cases hfault : (scan count later).fault? with
    | some fault =>
        simp only [hfault] at h
        cases h
    | none =>
        simp only [hfault] at h
        obtain rfl := Except.ok.inj h
        have hscan : scan count later =
            { records := (scan count later).records
              rest := (scan count later).rest
              fault? := none } := by
          rw [← hfault]
        obtain ⟨hlength, body, hbody, hlater⟩ := scan_eq_iff.1 hscan
        refine ⟨word, body, (scan count later).rest, ?_, hbody, ?_⟩
        · rwa [hlength]
        · rw [List.append_assoc, ← hlater]
  · rintro ⟨word, body, trailing, hword, hbody, rfl⟩
    refine ⟨(records.length, body ++ trailing), ?_, ?_⟩
    · exact takeWord_eq_ok_iff.2 ⟨word, hword, List.append_assoc _ _ _⟩
    · have hscan : scan records.length (body ++ trailing) =
          { records, rest := trailing, fault? := none } :=
        scan_eq_iff.2 ⟨rfl, body, hbody, rfl⟩
      simp only [hscan]
      rfl

/-! ### Sizes -/

section Sizes

variable {bytes : List UInt8} {records : List Record}

theorem ofLittleEndian_lt (bytes : List UInt8) : ofLittleEndian bytes < 256 ^ bytes.length := by
  induction bytes with
  | nil => exact Nat.one_pos
  | cons byte rest ih =>
      have hbyte : byte.toNat < 256 := byte.toNat_lt
      rw [ofLittleEndian, List.length_cons, Nat.pow_succ]
      omega

theorem IsWord.lt {n : Nat} (h : IsWord bytes n) : n < UInt64.size := by
  have hlt := ofLittleEndian_lt bytes
  rw [h.1, h.2] at hlt
  exact hlt

theorem IsText.length_lt {text : String} (h : IsText bytes text) :
    (Utf8.encode text).length < UInt64.size := by
  obtain ⟨word, hword, -⟩ := h
  exact hword.lt

theorem AreRecords.fits (h : AreRecords bytes records) : ∀ record ∈ records, Fits record := by
  induction h with
  | nil => exact List.forall_mem_nil _
  | cons hrecord _ ih =>
      obtain ⟨key, value, hkey, hvalue, -⟩ := hrecord
      exact List.forall_mem_cons.2 ⟨⟨hkey.length_lt, hvalue.length_lt⟩, ih⟩

theorem fits_of_decode (h : decode bytes = .ok records) :
    records.length < UInt64.size ∧ ∀ record ∈ records, Fits record := by
  obtain ⟨count, body, trailing, hcount, hbody, -⟩ := decode_eq_ok_iff.1 h
  exact ⟨hcount.lt, hbody.fits⟩

end Sizes

end ExpiringCache.Snapshot
