import ExpiringCache.Proofs.Snapshot.RoundTrip
/-!
# Cut-off and extended images

An image carries no checksum: only its numbers tell where it ends. That is enough. Bytes that start
with an image are at least as long as that image, and longer bytes start with the same records, so a
cut-off image starts with no image at all, and what follows an image plays no role.
-/

namespace ExpiringCache

namespace Snapshot

variable {bytes : List UInt8} {records : List Record}

/-! ### Lengths -/

theorem IsText.length_eq {text : String} (h : IsText bytes text) :
    bytes.length = (encodeBytes (Utf8.encode text)).length := by
  obtain ⟨word, ⟨hword, -⟩, rfl⟩ := h
  rw [encodeBytes, List.length_append, List.length_append, hword, length_encodeWord]

theorem IsRecord.length_eq {record : Record} (h : IsRecord bytes record) :
    bytes.length = (encodeRecord record).length := by
  obtain ⟨key, value, hkey, hvalue, rfl⟩ := h
  rw [encodeRecord, List.length_append, List.length_append, hkey.length_eq, hvalue.length_eq]

theorem AreRecords.length_eq (h : AreRecords bytes records) :
    bytes.length = (records.flatMap encodeRecord).length := by
  induction h with
  | nil => rfl
  | cons hrecord _ ih =>
      rw [List.flatMap_cons, List.length_append, List.length_append, hrecord.length_eq, ih]

theorem StartsWithImage.length_encode_le (h : StartsWithImage bytes records) :
    (encode records).length ≤ bytes.length := by
  obtain ⟨word, body, trailing, ⟨hword, -⟩, hbody, rfl⟩ := h
  calc (encode records).length
      = word.length + body.length := by
        rw [encode, List.length_append, length_encodeWord, hword, hbody.length_eq]
    _ = (word ++ body).length := List.length_append.symm
    _ ≤ (word ++ body ++ trailing).length := (List.prefix_append _ trailing).length_le

/-! ### More bytes, and fewer -/

theorem StartsWithImage.append (h : StartsWithImage bytes records) (more : List UInt8) :
    StartsWithImage (bytes ++ more) records := by
  obtain ⟨word, body, trailing, hword, hbody, rfl⟩ := h
  exact ⟨word, body, trailing ++ more, hword, hbody, List.append_assoc _ _ _⟩

theorem decode_append (h : decode bytes = .ok records) (more : List UInt8) :
    decode (bytes ++ more) = .ok records :=
  decode_eq_ok_iff.2 ((decode_eq_ok_iff.1 h).append more)

/-- What the front of an image decodes to is all of the image's records, so the front is all of the
image. -/
theorem eq_encode_of_isPrefix_of_decode {front : List UInt8} {found : List Record}
    (hsize : (encode records).length < UInt64.size) (hfront : front <+: encode records)
    (h : decode front = .ok found) : found = records ∧ front = encode records := by
  have hfound : decode (encode records) = .ok found := by
    obtain ⟨more, hmore⟩ := hfront
    rw [← hmore]
    exact decode_append h more
  obtain rfl : found = records :=
    Except.ok.inj (hfound.symm.trans (decode_encode_of_length_lt hsize))
  exact ⟨rfl, hfront.eq_of_length_le (decode_eq_ok_iff.1 h).length_encode_le⟩

theorem decode_ne_ok_of_cut {cut : List UInt8} (hsize : (encode records).length < UInt64.size)
    (hcut : cut <+: encode records) (hshort : cut ≠ encode records) (found : List Record) :
    decode cut ≠ .ok found :=
  fun h => hshort (eq_encode_of_isPrefix_of_decode hsize hcut h).2

/-- **Images are prefix-free.** -/
theorem eq_of_encode_isPrefix {others : List Record}
    (hsize : (encode records).length < UInt64.size) (h : encode others <+: encode records) :
    others = records := by
  have hothers : (encode others).length < UInt64.size := h.length_le.trans_lt hsize
  exact (eq_encode_of_isPrefix_of_decode hsize h (decode_encode_of_length_lt hothers)).1

end Snapshot

namespace Store

open Snapshot

variable {ν μ : Type} [SnapshotText ν] [SnapshotText μ]

theorem reload_of_cut (target : Store String μ) (path : String) (policy : SnapshotPolicy)
    (clock : Clock) {records : List Record} {cut : List UInt8}
    (hsize : (encode records).length < UInt64.size) (hcut : cut <+: encode records)
    (hshort : cut ≠ encode records) :
    ∃ fault, target.reload path policy (.ok cut) clock =
      { entries := 0, store := target, clock, event := .snapshotUndecodable path fault } := by
  cases hdecode : decode cut with
  | ok found => exact (decode_ne_ok_of_cut hsize hcut hshort found hdecode).elim
  | error fault =>
      refine ⟨fault, ?_⟩
      simp only [reload, hdecode]

theorem reload_append (target : Store String μ) (path : String) (policy : SnapshotPolicy)
    (clock : Clock) {records : List Record} (hsize : (encode records).length < UInt64.size)
    (trailing : List UInt8) :
    target.reload path policy (.ok (encode records ++ trailing)) clock =
      target.reload path policy (.ok (encode records)) clock := by
  have hdecode := decode_encode_of_length_lt hsize
  rw [reload_of_decode_eq_ok target path policy hdecode,
    reload_of_decode_eq_ok target path policy (decode_append hdecode trailing)]

/-- **A cut-off snapshot loads nothing, and one with bytes after it loads the same.** The image is
what a store saves, its records in any order. A file with a proper front of it, the empty one
included, leaves the target as it is; bytes after the image change nothing; and no image is a proper
front of another. -/
theorem reload_of_cut_or_extended_image (source : Store String ν) (written : SnapshotPolicy)
    (order : List Record) (horder : order.Perm (source.records written))
    (hsize : (source.image written).length < UInt64.size) (disk : Disk) (path : String)
    (hpath : disk.IsFilePath path) (target : Store String μ) (read : SnapshotPolicy)
    (clock : Clock) :
    (∀ cut, cut <+: encode order → cut ≠ encode order →
      ∃ after fault, disk.write path cut = .ok after ∧
        target.reload path read (after.read path) clock =
          { entries := 0, store := target, clock, event := .snapshotUndecodable path fault }) ∧
    (∀ trailing, ∃ whole extended, disk.write path (encode order) = .ok whole ∧
      disk.write path (encode order ++ trailing) = .ok extended ∧
      target.reload path read (extended.read path) clock =
        target.reload path read (whole.read path) clock) ∧
    ∀ others : List Record, encode others <+: encode order → others = order := by
  have hlength : (encode order).length < UInt64.size := by
    rwa [length_encode_of_perm horder]
  refine ⟨fun cut hcut hshort => ?_, fun trailing => ?_, fun others hfront => ?_⟩
  · obtain ⟨after, hwrite, hread⟩ := Disk.read_write hpath cut
    obtain ⟨fault, hreload⟩ := reload_of_cut target path read clock hlength hcut hshort
    exact ⟨after, fault, hwrite, by rw [hread, hreload]⟩
  · obtain ⟨whole, hwhole, hread⟩ := Disk.read_write hpath (encode order)
    obtain ⟨extended, hextended, hreadmore⟩ := Disk.read_write hpath (encode order ++ trailing)
    refine ⟨whole, extended, hwhole, hextended, ?_⟩
    rw [hread, hreadmore, reload_append target path read clock hlength]
  · exact eq_of_encode_isPrefix hlength hfront

/-- The last byte of the image is the last of three of a character. -/
theorem reload_of_image_cut_within_character :
    let order := [("é", ""), ("x", "€")]
    let target : Store String Payload := mixedStore
    order.Perm (mixedStore.records { filter := .all }) ∧
      (mixedStore.image { filter := .all }).length < UInt64.size ∧
      Disk.blank.IsFilePath "a" ∧ (encode order).dropLast <+: encode order ∧
      (encode order).dropLast ≠ encode order ∧
      ∃ after fault, Disk.blank.write "a" (encode order).dropLast = .ok after ∧
        target.reload "a" {} (after.read "a") { steady := { seconds := 9 } } =
          { entries := 0
            store := target
            clock := { steady := { seconds := 9 } }
            event := .snapshotUndecodable "a" fault } := by
  intro order target
  have horder : order.Perm (mixedStore.records { filter := .all }) := perm_records_mixedStore
  have hsize : (mixedStore.image { filter := .all }).length < UInt64.size := by decide
  have hcut : (encode order).dropLast <+: encode order := List.dropLast_prefix _
  have hshort : (encode order).dropLast ≠ encode order := by decide
  refine ⟨horder, hsize, Disk.isFilePath_blank, hcut, hshort, ?_⟩
  exact (reload_of_cut_or_extended_image mixedStore { filter := .all } order horder hsize
    Disk.blank "a" Disk.isFilePath_blank target {} { steady := { seconds := 9 } }).1 _ hcut hshort

end Store

end ExpiringCache
