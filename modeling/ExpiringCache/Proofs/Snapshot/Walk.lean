import ExpiringCache.Proofs.Snapshot.Cut
/-!
# How far decoding goes

Decoding as a walk over the bytes. A cursor stands at an offset, holds the records that are complete
and asks for the next piece, a number or a text of a declared length. A piece is granted only if so
many bytes are left, so a declared length moves the offset only within the bytes.

Every complete record has taken two numbers, and with the number of records these are bytes that are
there. So the bytes bound the records, the steps of the walk and the count of a reload, whatever
number of records the first eight bytes declare.
-/

namespace ExpiringCache

namespace Snapshot

/-- What is read next. The key, if it is read already, and the number of the records that follow
belong to the record that is being read. -/
inductive Piece where
  /-- The number of records. -/
  | count
  /-- The length of a key or, after the key, of a value. -/
  | length (key? : Option String) (more : Nat)
  /-- A key or a value of the declared length. -/
  | text (length : Nat) (key? : Option String) (more : Nat)
  | nothing

namespace Piece

/-- How many bytes are asked for. -/
def size : Piece → Nat
  | .count => wordSize
  | .length _ _ => wordSize
  | .text declared _ _ => declared
  | .nothing => 0

/-- The first piece of so many records. -/
def ofRecords : Nat → Piece
  | 0 => .nothing
  | more + 1 => .length none more

/-- How many numbers the walk has read, those of complete records left out. -/
def words : Piece → Nat
  | .count => 0
  | .length none _ => 1
  | .text _ none _ => 2
  | .length (some _) _ => 2
  | .text _ (some _) _ => 3
  | .nothing => 1

/-- How many pieces the walk has read, those of complete records left out. -/
def turn : Piece → Nat
  | .count => 0
  | .length none _ => 1
  | .text _ none _ => 2
  | .length (some _) _ => 3
  | .text _ (some _) _ => 4
  | .nothing => 1

theorem one_le_words {piece : Piece} (h : piece ≠ .count) : 1 ≤ piece.words := by
  unfold words
  split
  · exact absurd rfl h
  all_goals decide

theorem turn_le (piece : Piece) : piece.turn ≤ 4 := by
  unfold turn
  split <;> decide

theorem ofRecords_ne_count (more : Nat) : ofRecords more ≠ .count := by
  cases more <;> simp [ofRecords]

theorem words_ofRecords (more : Nat) : (ofRecords more).words = 1 := by
  cases more <;> rfl

theorem turn_ofRecords (more : Nat) : (ofRecords more).turn = 1 := by
  cases more <;> rfl

end Piece

/-- Where decoding stands between two pieces. -/
structure Cursor where
  offset : Nat := 0
  /-- The complete records. -/
  records : List Record := []
  piece : Piece := .count

/-- A text of the given length. -/
def takeContent (length : Nat) (bytes : List UInt8) : Except CodecError String :=
  if bytes.length < length then .error (.io (.described .unexpectedEnd ""))
  else
    match Utf8.decode (bytes.take length) with
    | .ok text => .ok text
    | .error fault => .error (.invalidUtf8 fault)

namespace Cursor

/-- The cursor behind a text: a key, or the value of a key, which completes a record. -/
def behindText (offset : Nat) (records : List Record) (more : Nat) (text : String) :
    Option String → Cursor
  | none => { offset, records, piece := .length (some text) more }
  | some key => { offset, records := records ++ [(key, text)], piece := .ofRecords more }

/-- Reads the next piece. -/
def step (bytes : List UInt8) (cursor : Cursor) : Except CodecError Cursor :=
  let ahead := bytes.drop cursor.offset
  match cursor.piece with
  | .count => do
    let (count, _) ← takeWord ahead
    return { cursor with
      offset := cursor.offset + wordSize
      piece := .ofRecords count }
  | .length key? more => do
    let (length, _) ← takeWord ahead
    return { cursor with
      offset := cursor.offset + wordSize
      piece := .text length key? more }
  | .text length key? more => do
    let text ← takeContent length ahead
    return behindText (cursor.offset + length) cursor.records more text key?
  | .nothing => return cursor

/-- The cursor after so many steps from the beginning. -/
def after (bytes : List UInt8) : Nat → Except CodecError Cursor
  | 0 => .ok {}
  | n + 1 => do
    let cursor ← after bytes n
    cursor.step bytes

end Cursor

variable {bytes rest : List UInt8} {cursor next : Cursor} {n length : Nat} {text : String}

/-! ### Pieces and readers -/

theorem takeWord_granted (h : takeWord bytes = .ok (n, rest)) :
    wordSize ≤ bytes.length ∧ rest = bytes.drop wordSize := by
  rw [takeWord] at h
  split at h
  · cases h
  · rename_i hlong
    exact ⟨Nat.le_of_not_lt hlong, (Prod.mk.inj (Except.ok.inj h)).2.symm⟩

theorem takeContent_granted (h : takeContent length bytes = .ok text) : length ≤ bytes.length := by
  rw [takeContent] at h
  split at h
  · cases h
  · rename_i hlong
    exact Nat.le_of_not_lt hlong

theorem takeText_eq (bytes : List UInt8) :
    takeText bytes = do
      let (length, rest) ← takeWord bytes
      let text ← takeContent length rest
      return (text, rest.drop length) := by
  rw [takeText, takeBytes]
  cases takeWord bytes with
  | error fault => rfl
  | ok found =>
      obtain ⟨length, rest⟩ := found
      change (if rest.length < length then _ else _) >>= _ = takeContent length rest >>= _
      rw [takeContent]
      split
      · rfl
      · change (match Utf8.decode (rest.take length) with | .ok text => _ | .error fault => _) = _
        cases Utf8.decode (rest.take length) <;> rfl

/-! ### One step -/

namespace Cursor

/-- The bytes of the numbers that are read. -/
def spent (cursor : Cursor) : Nat := 16 * cursor.records.length + wordSize * cursor.piece.words

def steps (cursor : Cursor) : Nat := 4 * cursor.records.length + cursor.piece.turn

/-- What a step does: the piece is there, the offset moves by its size, and a number that is read is
paid for with eight bytes. -/
structure Advances (bytes : List UInt8) (cursor next : Cursor) : Prop where
  unfinished : cursor.piece ≠ .nothing
  granted : cursor.piece.size ≤ (bytes.drop cursor.offset).length
  offset_eq : next.offset = cursor.offset + cursor.piece.size
  spent_le : next.spent ≤ cursor.spent + cursor.piece.size
  steps_eq : next.steps = cursor.steps + 1
  piece_ne : next.piece ≠ .count

theorem step_cases (h : cursor.step bytes = .ok next) :
    cursor.piece = .nothing ∧ next = cursor ∨ Advances bytes cursor next := by
  obtain ⟨offset, records, piece⟩ := cursor
  cases piece with
  | count =>
      obtain ⟨⟨count, rest⟩, hword, hnext⟩ := bind_eq_ok_iff.1 h
      obtain rfl := Except.ok.inj hnext
      refine Or.inr ⟨by simp, (takeWord_granted hword).1, rfl, ?_, ?_, Piece.ofRecords_ne_count _⟩
      · rw [spent, Piece.words_ofRecords]
        simp [spent, Piece.words, Piece.size]
      · rw [steps, Piece.turn_ofRecords]
        rfl
  | length key? more =>
      obtain ⟨⟨length, rest⟩, hword, hnext⟩ := bind_eq_ok_iff.1 h
      obtain rfl := Except.ok.inj hnext
      refine Or.inr ⟨by simp, (takeWord_granted hword).1, rfl, ?_, ?_, by simp⟩
      · cases key? <;> simp [spent, Piece.words, Piece.size, wordSize]
      · cases key? <;> simp [steps, Piece.turn]
  | text length key? more =>
      obtain ⟨text, hcontent, hnext⟩ := bind_eq_ok_iff.1 h
      obtain rfl := Except.ok.inj hnext
      have hgranted := takeContent_granted hcontent
      cases key? with
      | none =>
          -- The text may be empty: only the numbers before it are counted as spent.
          refine Or.inr ⟨by simp, hgranted, rfl, ?_, ?_, by simp [behindText]⟩
          · simp [behindText, spent, Piece.words]
          · simp [behindText, steps, Piece.turn]
      | some key =>
          refine Or.inr ⟨by simp, hgranted, rfl, ?_, ?_, Piece.ofRecords_ne_count _⟩
          · rw [behindText, spent, Piece.words_ofRecords]
            -- The sixteen bytes of the record are those of its two numbers.
            simp only [spent, Piece.words, wordSize, List.length_append, List.length_singleton]
            omega
          · rw [behindText, steps, Piece.turn_ofRecords]
            simp only [steps, Piece.turn, List.length_append, List.length_singleton]
            omega
  | nothing =>
      obtain rfl := Except.ok.inj h
      exact Or.inl ⟨rfl, rfl⟩

theorem offset_step (h : cursor.step bytes = .ok next) :
    next.offset = cursor.offset + cursor.piece.size := by
  obtain ⟨hdone, rfl⟩ | hadvances := step_cases h
  · rw [hdone]
    rfl
  · exact hadvances.offset_eq

/-! ### The whole walk -/

/-- What holds after so many steps, and which a step preserves. -/
structure Within (bytes : List UInt8) (n : Nat) (cursor : Cursor) : Prop where
  offset_le : cursor.offset ≤ bytes.length
  spent_le : cursor.spent ≤ cursor.offset
  /-- Before the number of records is read nothing is paid for. -/
  records_eq : cursor.piece = .count → cursor.records = []
  steps_eq : cursor.piece = .nothing ∨ cursor.steps = n

theorem Within.step (h : Within bytes n cursor) (hstep : cursor.step bytes = .ok next) :
    Within bytes (n + 1) next := by
  obtain ⟨hdone, rfl⟩ | hadvances := step_cases hstep
  · exact ⟨h.offset_le, h.spent_le, h.records_eq, Or.inl hdone⟩
  · have hgranted := hadvances.granted
    rw [List.length_drop] at hgranted
    have hoffset := h.offset_le
    have hspent := h.spent_le
    refine ⟨?_, ?_, fun hcount => absurd hcount hadvances.piece_ne, Or.inr ?_⟩
    · rw [hadvances.offset_eq]
      omega
    · rw [hadvances.offset_eq]
      exact hadvances.spent_le.trans (Nat.add_le_add_right hspent _)
    · rw [hadvances.steps_eq, h.steps_eq.resolve_left hadvances.unfinished]

theorem within_after (h : after bytes n = .ok cursor) : Within bytes n cursor := by
  induction n generalizing cursor with
  | zero =>
      obtain rfl := Except.ok.inj h
      exact ⟨Nat.zero_le _, Nat.le_refl _, fun _ => rfl, Or.inr rfl⟩
  | succ n ih =>
      obtain ⟨before, hbefore, hstep⟩ := bind_eq_ok_iff.1 h
      exact (ih hbefore).step hstep

/-- A complete record takes sixteen bytes, and the number of records eight. -/
theorem Within.length_records_le (h : Within bytes n cursor) :
    cursor.records.length ≤ (bytes.length - 8) / 16 := by
  have hoffset := h.offset_le
  have hspent := h.spent_le
  by_cases hcount : cursor.piece = .count
  · rw [h.records_eq hcount]
    exact Nat.zero_le _
  · have hwords : 1 ≤ cursor.piece.words := Piece.one_le_words hcount
    rw [spent, wordSize] at hspent
    omega

/-- After so many steps the walk is over, whatever number of records is declared. -/
theorem piece_eq_nothing (h : after bytes (4 * ((bytes.length - 8) / 16) + 5) = .ok cursor) :
    cursor.piece = .nothing := by
  have hwithin : Within bytes _ cursor := within_after h
  -- A walk that is not over has taken one step for each piece, and there are not so many pieces.
  refine hwithin.steps_eq.resolve_right fun hsteps => ?_
  have hrecords := hwithin.length_records_le
  have hturn := cursor.piece.turn_le
  rw [steps] at hsteps
  omega

/-! ### The walk and the decoder -/

/-- All records, if those that are complete are followed by so many more. -/
def complete (records : List Record) (more : Nat) (bytes : List UInt8) :
    Except CodecError (List Record) :=
  let run := scan more bytes
  match run.fault? with
  | some fault => .error fault
  | none => .ok (records ++ run.records)

/-- All records, given a text that is just read, a key or the value of a key. -/
def completeText (records : List Record) (key? : Option String) (more : Nat) (text : String)
    (bytes : List UInt8) : Except CodecError (List Record) :=
  match key? with
  | some key => complete (records ++ [(key, text)]) more bytes
  | none => do
    let (value, bytes) ← takeText bytes
    complete (records ++ [(text, value)]) more bytes

/-- What the decoder makes of the bytes that are ahead. -/
def resume (bytes : List UInt8) (cursor : Cursor) : Except CodecError (List Record) :=
  let ahead := bytes.drop cursor.offset
  match cursor.piece with
  | .count => do
    let (count, ahead) ← takeWord ahead
    complete cursor.records count ahead
  | .length key? more => do
    let (text, ahead) ← takeText ahead
    completeText cursor.records key? more text ahead
  | .text length key? more => do
    let text ← takeContent length ahead
    completeText cursor.records key? more text (ahead.drop length)
  | .nothing => .ok cursor.records

theorem complete_succ (records : List Record) (more : Nat) (bytes : List UInt8) :
    complete records (more + 1) bytes =
      (do
        let (key, bytes) ← takeText bytes
        completeText records none more key bytes) := by
  rw [complete, scan, takeRecord]
  cases takeText bytes with
  | error fault => rfl
  | ok found =>
      obtain ⟨key, rest⟩ := found
      change _ = takeText rest >>= _
      simp only [bind, Except.bind]
      cases takeText rest with
      | error fault => rfl
      | ok found =>
          obtain ⟨value, rest⟩ := found
          simp only [complete, pure, Except.pure, List.append_assoc, List.singleton_append]

theorem resume_ofRecords (bytes : List UInt8) (offset : Nat) (records : List Record) (more : Nat) :
    resume bytes { offset, records, piece := .ofRecords more } =
      complete records more (bytes.drop offset) := by
  cases more with
  | zero => exact congrArg Except.ok (List.append_nil records).symm
  | succ more => exact (complete_succ records more _).symm

theorem resume_behindText (bytes : List UInt8) (offset : Nat) (records : List Record) (more : Nat)
    (text : String) (key? : Option String) :
    resume bytes (behindText offset records more text key?) =
      completeText records key? more text (bytes.drop offset) := by
  cases key? with
  | none => rfl
  | some key => exact resume_ofRecords bytes offset _ more

/-- A step does not change what the decoder makes of the bytes. -/
theorem step_resume (bytes : List UInt8) (cursor : Cursor) :
    (do let next ← cursor.step bytes; next.resume bytes) = cursor.resume bytes := by
  obtain ⟨offset, records, piece⟩ := cursor
  cases piece with
  | count =>
      change (takeWord (bytes.drop offset) >>= _) >>= _ = takeWord (bytes.drop offset) >>= _
      cases hword : takeWord (bytes.drop offset) with
      | error fault => rfl
      | ok found =>
          obtain ⟨count, rest⟩ := found
          have hrest : rest = bytes.drop (offset + wordSize) := by
            rw [(takeWord_granted hword).2, List.drop_drop]
          rw [hrest]
          exact resume_ofRecords bytes (offset + wordSize) records count
  | length key? more =>
      change (takeWord (bytes.drop offset) >>= _) >>= _ = takeText (bytes.drop offset) >>= _
      rw [takeText_eq]
      cases hword : takeWord (bytes.drop offset) with
      | error fault => rfl
      | ok found =>
          obtain ⟨length, rest⟩ := found
          have hrest : rest = bytes.drop (offset + wordSize) := by
            rw [(takeWord_granted hword).2, List.drop_drop]
          rw [hrest]
          change takeContent length (bytes.drop (offset + wordSize)) >>= _ =
            (takeContent length (bytes.drop (offset + wordSize)) >>= _) >>= _
          cases takeContent length (bytes.drop (offset + wordSize)) <;> rfl
  | text length key? more =>
      change (takeContent length (bytes.drop offset) >>= _) >>= _ =
        takeContent length (bytes.drop offset) >>= _
      cases takeContent length (bytes.drop offset) with
      | error fault => rfl
      | ok text =>
          change resume bytes (behindText (offset + length) records more text key?) =
            completeText records key? more text ((bytes.drop offset).drop length)
          rw [resume_behindText, List.drop_drop]
  | nothing => rfl

theorem resume_start (bytes : List UInt8) : ({} : Cursor).resume bytes = decode bytes := by
  rw [decode]
  refine bind_congr fun found => ?_
  obtain ⟨count, rest⟩ := found
  simp only [complete, List.nil_append]
  cases (scan count rest).fault? <;> rfl

theorem decode_eq_resume (bytes : List UInt8) (n : Nat) :
    (do let cursor ← after bytes n; cursor.resume bytes) = decode bytes := by
  induction n with
  | zero => exact resume_start bytes
  | succ n ih =>
      calc (do let cursor ← after bytes (n + 1); cursor.resume bytes)
          = (do let cursor ← after bytes n; let next ← cursor.step bytes; next.resume bytes) := by
            rw [after, bind_assoc]
        _ = (do let cursor ← after bytes n; cursor.resume bytes) := by
            simp only [step_resume]
        _ = decode bytes := ih

theorem decode_of_after (h : after bytes n = .ok cursor) :
    decode bytes = cursor.resume bytes := by
  rw [← decode_eq_resume bytes n, h]
  rfl

theorem decode_of_fault {fault : CodecError} (h : after bytes n = .error fault) :
    decode bytes = .error fault := by
  rw [← decode_eq_resume bytes n, h]
  rfl

/-- The walk is over after so many steps, and has decoded or failed as the decoder does. -/
theorem walk_ends (bytes : List UInt8) :
    let n := 4 * ((bytes.length - 8) / 16) + 5
    (∃ cursor, after bytes n = .ok cursor ∧ cursor.piece = .nothing ∧
        decode bytes = .ok cursor.records) ∨
      ∃ fault, after bytes n = .error fault ∧ decode bytes = .error fault := by
  intro n
  cases hafter : after bytes n with
  | error fault => exact Or.inr ⟨fault, rfl, decode_of_fault hafter⟩
  | ok cursor =>
      have hpiece : cursor.piece = .nothing := piece_eq_nothing hafter
      refine Or.inl ⟨cursor, rfl, hpiece, ?_⟩
      rw [decode_of_after hafter, resume, hpiece]

end Cursor

/-! ### The running decoder -/

/-- A scan reads sixteen bytes for each record, whatever number of records is wanted. -/
theorem length_scan (count : Nat) (bytes : List UInt8) :
    16 * (scan count bytes).records.length + (scan count bytes).rest.length ≤ bytes.length := by
  induction count generalizing bytes with
  | zero =>
      simp only [scan, List.length_nil]
      omega
  | succ count ih =>
      simp only [scan]
      split
      · simp only [List.length_nil]
        omega
      · rename_i record rest hrecord
        obtain ⟨front, hfront, rfl⟩ := takeRecord_eq_ok_iff.1 hrecord
        have hlength : front.length = (encodeRecord record).length := hfront.length_eq
        rw [length_encodeRecord] at hlength
        have hlater := ih rest
        simp only [List.length_cons, List.length_append]
        omega

theorem length_records_of_decode {records : List Record} (h : decode bytes = .ok records) :
    records.length ≤ (bytes.length - 8) / 16 := by
  obtain ⟨cursor, hafter, -, hdecode⟩ | ⟨fault, -, hdecode⟩ := Cursor.walk_ends bytes
  · obtain rfl : cursor.records = records := Except.ok.inj (hdecode.symm.trans h)
    exact (Cursor.within_after hafter).length_records_le
  · cases hdecode.symm.trans h

end Snapshot

namespace Store

open Snapshot

variable {ν : Type} [SnapshotText ν]

theorem entries_reload_le (store : Store String ν) (path : String) (policy : SnapshotPolicy)
    (bytes : List UInt8) (clock : Clock) :
    (store.reload path policy (.ok bytes) clock).entries ≤ (bytes.length - 8) / 16 := by
  cases hdecode : decode bytes with
  | error fault =>
      simp only [reload, hdecode]
      exact Nat.zero_le _
  | ok records =>
      rw [reload_of_decode_eq_ok store path policy hdecode]
      calc (latest records).size
          = (records.map Prod.fst).dedup.length := size_latest records
        _ ≤ (records.map Prod.fst).length := (List.dedup_sublist _).length_le
        _ = records.length := List.length_map _
        _ ≤ (bytes.length - 8) / 16 := length_records_of_decode hdecode

/-- **Decoding is bounded by the bytes, not by what they declare.** Whatever number of records is
declared, no more are read than the bytes hold at sixteen bytes each. The walk that decodes never
leaves the bytes, and where it adds a declared length to an offset the sum is exact also in 64 bits;
it ends within four steps for each of these records, and with what decoding gives. So a reload
counts no more entries than that, and in a file of less than `2 ^ 36 + 8` bytes a 32-bit counter
holds them. -/
theorem decoding_bounded_by_bytes (store : Store String ν) (path : String) (policy : SnapshotPolicy)
    (bytes : List UInt8) (clock : Clock) :
    let bound := (bytes.length - 8) / 16
    let entries := (store.reload path policy (.ok bytes) clock).entries
    (∀ count, (scan count (bytes.drop wordSize)).records.length ≤ bound) ∧
    (∀ n cursor, Cursor.after bytes n = .ok cursor →
      cursor.offset ≤ bytes.length ∧ cursor.records.length ≤ bound ∧
      ∀ next, cursor.step bytes = .ok next →
        next.offset = cursor.offset + cursor.piece.size ∧ next.offset ≤ bytes.length ∧
        (bytes.length < UInt64.size →
          (UInt64.ofNat cursor.offset + UInt64.ofNat cursor.piece.size).toNat = next.offset)) ∧
    ((∃ cursor, Cursor.after bytes (4 * bound + 5) = .ok cursor ∧ cursor.piece = .nothing ∧
        decode bytes = .ok cursor.records) ∨
      ∃ fault, Cursor.after bytes (4 * bound + 5) = .error fault ∧ decode bytes = .error fault) ∧
    entries ≤ bound ∧ (bytes.length < Nat.pow 2 36 + 8 → entries < UInt32.size) := by
  intro bound entries
  have hentries : entries ≤ bound := entries_reload_le store path policy bytes clock
  refine ⟨fun count => ?_, fun n cursor hafter => ?_, Cursor.walk_ends bytes, hentries,
    fun hshort => ?_⟩
  · have hscan := length_scan count (bytes.drop wordSize)
    have hword : wordSize = 8 := rfl
    rw [List.length_drop] at hscan
    omega
  · have hwithin : Cursor.Within bytes n cursor := Cursor.within_after hafter
    refine ⟨hwithin.offset_le, hwithin.length_records_le, fun next hstep => ?_⟩
    have hoffset : next.offset = cursor.offset + cursor.piece.size := Cursor.offset_step hstep
    have hnext : next.offset ≤ bytes.length := (hwithin.step hstep).offset_le
    refine ⟨hoffset, hnext, fun hsize => ?_⟩
    have hsum : cursor.offset + cursor.piece.size < UInt64.size := by omega
    rw [hoffset, ← UInt64.ofNat_add, UInt64.toNat_ofNat_of_lt' hsum]
  · have hbound : bound < UInt32.size := by
      have hpow : Nat.pow 2 36 = 16 * UInt32.size := by decide
      have hsize : 0 < UInt32.size := by decide
      omega
    exact hentries.trans_lt hbound

end Store

end ExpiringCache
