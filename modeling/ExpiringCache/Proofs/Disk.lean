import ExpiringCache.Disk.Basic
import ExpiringCache.Proofs.Except
import ExpiringCache.Proofs.Table
/-!
# Reading what was written

A path at which a file stands, or could be created, can be written, and reading it afterwards gives
what was written. A file that is placed where no directory stood is in the way of no other path, so
the names that led to it still do.
-/

namespace ExpiringCache.Disk

/-- The path leads to a file, or to a free place in a directory. -/
def IsFilePath (disk : Disk) (path : String) : Prop :=
  ∃ location, disk.fileLocation path = .ok location ∧
    ∀ node, disk.node? location = some node → ∃ content, node = .file content

theorem isFilePath_blank : blank.IsFilePath "a" := by
  have hnames : "a".splitOn "/" = ["a"] := by
    rw [String.splitOn, if_neg (by decide), String.splitOnAux, if_neg (by decide),
      if_neg (by decide), String.splitOnAux, if_pos (by decide)]
    decide
  have hparse : Path.parse "a" = .ok { absolute := false, names := ["a"], closed := false } := by
    rw [Path.parse, hnames]
    decide
  have hlocation : blank.fileLocation "a" = .ok ["a", "work", "tmp"] := by
    rw [fileLocation, hparse]
    decide
  have hfree : blank.node? ["a", "work", "tmp"] = none := by decide
  refine ⟨_, hlocation, fun node hnode => ?_⟩
  rw [hfree] at hnode
  cases hnode

theorem node?_place_self (disk : Disk) {location : Location} (hroot : location ≠ [])
    (node : Node) : (disk.place location node).node? location = some node := by
  cases location with
  | nil => exact (hroot rfl).elim
  | cons name rest => exact Table.get?_insert_self _ _ _

theorem node?_place_of_ne (disk : Disk) {location other : Location} (h : other ≠ location)
    (node : Node) : (disk.place location node).node? other = disk.node? other := by
  cases other with
  | nil => rfl
  | cons name rest => exact Table.get?_insert_of_ne _ h _

theorem isSome_node?_place {disk : Disk} {location other : Location} {node : Node}
    (h : (disk.node? other).isSome) : ((disk.place location node).node? other).isSome := by
  by_cases hother : other = location
  · subst hother
    cases other with
    | nil => rfl
    | cons name rest => rw [node?_place_self disk (List.cons_ne_nil name rest), Option.isSome_some]
  · rwa [node?_place_of_ne disk hother]

theorem requireDirectory_eq_ok_iff {disk : Disk} {location : Location} :
    disk.requireDirectory location = .ok () ↔ disk.node? location = some .directory := by
  rw [requireDirectory]
  split
  · exact iff_of_true rfl ‹_›
  · exact iff_of_false nofun ‹_›

theorem follow_cons_eq_ok_iff {disk : Disk} {here there : Location} {name : String}
    {rest : List String} :
    disk.follow here (name :: rest) = .ok there ↔
      disk.node? here = some .directory ∧
        ∃ next, child here name = .ok next ∧ (disk.node? next).isSome ∧
          disk.follow next rest = .ok there := by
  rw [follow, bind_eq_ok_iff]
  constructor
  · rintro ⟨_, hhere, h⟩
    obtain ⟨next, hnext, h⟩ := bind_eq_ok_iff.1 h
    by_cases hnone : (disk.node? next).isNone
    · rw [if_pos hnone] at h
      cases h
    · rw [if_neg hnone] at h
      have hsome : (disk.node? next).isSome := by simpa [Option.isSome_iff_ne_none] using hnone
      exact ⟨requireDirectory_eq_ok_iff.1 hhere, next, hnext, hsome, h⟩
  · rintro ⟨hhere, next, hnext, hsome, h⟩
    refine ⟨(), requireDirectory_eq_ok_iff.2 hhere, bind_eq_ok_iff.2 ⟨next, hnext, ?_⟩⟩
    rw [if_neg (by simpa [Option.isSome_iff_ne_none] using hsome)]
    exact h

theorem follow_append_singleton {disk : Disk} {here there : Location} {names : List String}
    {name : String} {last : Location} (hnames : disk.follow here names = .ok there)
    (hdirectory : disk.node? there = some .directory) (hchild : child there name = .ok last)
    (hlast : (disk.node? last).isSome) : disk.follow here (names ++ [name]) = .ok last := by
  induction names generalizing here with
  | nil =>
      obtain rfl := Except.ok.inj hnames
      exact follow_cons_eq_ok_iff.2 ⟨hdirectory, last, hchild, hlast, rfl⟩
  | cons first rest ih =>
      obtain ⟨hhere, next, hnext, hsome, hrest⟩ := follow_cons_eq_ok_iff.1 hnames
      exact follow_cons_eq_ok_iff.2 ⟨hhere, next, hnext, hsome, ih hrest⟩

/-- A walk does not pass a place where no directory stands, so a file placed there leaves it. -/
theorem follow_place {disk : Disk} {location : Location} {node : Node}
    (hlocation : disk.node? location ≠ some .directory) {here there : Location}
    {names : List String} (h : disk.follow here names = .ok there) :
    (disk.place location node).follow here names = .ok there := by
  induction names generalizing here with
  | nil => exact h
  | cons first rest ih =>
      obtain ⟨hhere, next, hnext, hsome, hrest⟩ := follow_cons_eq_ok_iff.1 h
      have hne : here ≠ location := fun heq => hlocation (heq ▸ hhere)
      refine follow_cons_eq_ok_iff.2 ⟨?_, next, hnext, isSome_node?_place hsome, ih hrest⟩
      rwa [node?_place_of_ne disk hne]

/-- Where a file at a path stands: under the last name, in the directory the others lead to. -/
theorem of_fileLocation_eq_ok {disk : Disk} {text : String} {location : Location}
    (h : disk.fileLocation text = .ok location) :
    ∃ path name directory, Path.parse text = .ok path ∧ path.names.getLast? = some name ∧
      path.closed = false ∧
      disk.follow (disk.start path) path.names.dropLast = .ok directory ∧
      disk.node? directory = some .directory ∧ child directory name = .ok location ∧
      location = name :: directory := by
  obtain ⟨path, hparse, h⟩ := bind_eq_ok_iff.1 h
  obtain ⟨directory, hfollow, h⟩ := bind_eq_ok_iff.1 h
  obtain ⟨_, hdirectory, h⟩ := bind_eq_ok_iff.1 h
  cases hname : path.names.getLast? with
  | none =>
      simp only [hname] at h
      cases h
  | some name =>
      simp only [hname] at h
      by_cases hrefused : path.closed || name = "." || name = ".."
      · rw [if_pos hrefused] at h
        cases h
      · rw [if_neg hrefused] at h
        replace h : child directory name = .ok location := h
        simp only [Bool.or_eq_true, decide_eq_true_eq, not_or, Bool.not_eq_true] at hrefused
        obtain ⟨⟨hclosed, hhere⟩, hup⟩ := hrefused
        refine ⟨path, name, directory, hparse, hname, hclosed, hfollow,
          requireDirectory_eq_ok_iff.1 hdirectory, h, ?_⟩
        rw [child, if_neg hhere, if_neg hup] at h
        split at h
        · cases h
        · exact (Except.ok.inj h).symm

/-- **Reading gives what was written**, at any path where a file stands or can be created. -/
theorem read_write {disk : Disk} {path : String} (h : disk.IsFilePath path)
    (content : List UInt8) :
    ∃ after, disk.write path content = .ok after ∧ after.read path = .ok content := by
  obtain ⟨location, hlocation, hfile⟩ := h
  have hplain : disk.node? location ≠ some .directory := by
    intro hdirectory
    obtain ⟨found, hfound⟩ := hfile _ hdirectory
    cases hfound
  obtain ⟨parsed, name, directory, hparse, hname, hclosed, hfollow, hdirectory, hchild,
    hstands⟩ := of_fileLocation_eq_ok hlocation
  have hroot : location ≠ [] := hstands ▸ List.cons_ne_nil name directory
  refine ⟨disk.place location (.file content), ?_, ?_⟩
  · refine bind_eq_ok_iff.2 ⟨location, hlocation, ?_⟩
    cases hnode : disk.node? location with
    | none => rfl
    | some node =>
        obtain ⟨found, rfl⟩ := hfile node hnode
        rfl
  · set after := disk.place location (.file content)
    have hnode : after.node? location = some (.file content) := node?_place_self disk hroot _
    have hne : directory ≠ location := fun heq => hplain (heq ▸ hdirectory)
    have hthere : after.node? directory = some .directory := by
      rw [node?_place_of_ne disk hne, hdirectory]
    have hnames : after.follow (after.start parsed) parsed.names = .ok location := by
      rw [← List.dropLast_append_getLast? name hname]
      exact follow_append_singleton (follow_place hplain hfollow) hthere hchild (by simp [hnode])
    refine bind_eq_ok_iff.2 ⟨parsed, hparse, bind_eq_ok_iff.2 ⟨location, hnames, ?_⟩⟩
    simp only [hnode, hclosed]
    rfl

/-! ### Devices -/

variable {disk after : Disk} {path : String} {content : List UInt8} {location : Location}

/-- A device stands at the path that swallows what is written. -/
def IsSinkPath (disk : Disk) (path : String) : Prop :=
  ∃ location, disk.fileLocation path = .ok location ∧ disk.node? location = some .sink

theorem write_of_isSinkPath (h : disk.IsSinkPath path) (content : List UInt8) :
    disk.write path content = .ok disk := by
  obtain ⟨location, hlocation, hsink⟩ := h
  refine bind_eq_ok_iff.2 ⟨location, hlocation, ?_⟩
  rw [hsink]
  rfl

theorem parse_sink :
    Path.parse "/dev/null" =
      .ok { absolute := true, names := ["dev", "null"], closed := false } := by
  have hnames : "/dev/null".splitOn "/" = ["", "dev", "null"] := by
    rw [String.splitOn, if_neg (by decide)]
    rw [String.splitOnAux, if_neg (by decide), if_pos (by decide), if_pos (by decide)]
    iterate 3 rw [String.splitOnAux, if_neg (by decide), if_neg (by decide)]
    rw [String.splitOnAux, if_neg (by decide), if_pos (by decide), if_pos (by decide)]
    iterate 4 rw [String.splitOnAux, if_neg (by decide), if_neg (by decide)]
    rw [String.splitOnAux, if_pos (by decide)]
    decide
  rw [Path.parse, hnames]
  decide

theorem isSinkPath_blank : blank.IsSinkPath "/dev/null" := by
  have hlocation : blank.fileLocation "/dev/null" = .ok ["null", "dev"] := by
    rw [fileLocation, parse_sink]
    decide
  exact ⟨_, hlocation, by decide⟩

theorem read_blank_sink : blank.read "/dev/null" = .ok [] := by
  rw [read, parse_sink]
  decide

theorem fileLocation_place (hlocation : disk.fileLocation path = .ok location)
    (hplain : disk.node? location ≠ some .directory) (node : Node) :
    (disk.place location node).fileLocation path = .ok location := by
  obtain ⟨parsed, hparse, h⟩ := bind_eq_ok_iff.1 hlocation
  obtain ⟨directory, hfollow, h⟩ := bind_eq_ok_iff.1 h
  obtain ⟨_, hdirectory, h⟩ := bind_eq_ok_iff.1 h
  rw [requireDirectory_eq_ok_iff] at hdirectory
  have hne : directory ≠ location := by
    intro heq
    exact hplain (heq ▸ hdirectory)
  have hthere : (disk.place location node).requireDirectory directory = .ok () := by
    rw [requireDirectory_eq_ok_iff, node?_place_of_ne disk hne, hdirectory]
  refine bind_eq_ok_iff.2 ⟨parsed, hparse, ?_⟩
  refine bind_eq_ok_iff.2 ⟨directory, follow_place hplain hfollow, ?_⟩
  exact bind_eq_ok_iff.2 ⟨(), hthere, h⟩

theorem IsFilePath.after_write (hfile : disk.IsFilePath path)
    (h : disk.write path content = .ok after) : after.IsFilePath path := by
  obtain ⟨location, hlocation, hnodes⟩ := hfile
  have hplain : disk.node? location ≠ some .directory := by
    intro hdirectory
    obtain ⟨found, hfound⟩ := hnodes _ hdirectory
    cases hfound
  have hroot : location ≠ [] := by
    obtain ⟨_, name, directory, -, -, -, -, -, -, hstands⟩ := of_fileLocation_eq_ok hlocation
    exact hstands ▸ List.cons_ne_nil name directory
  have hafter : after = disk.place location (.file content) := by
    obtain ⟨found, hfound, h⟩ := bind_eq_ok_iff.1 h
    obtain rfl := Except.ok.inj (hlocation.symm.trans hfound)
    cases hnode : disk.node? location with
    | none =>
        rw [hnode] at h
        exact (Except.ok.inj h).symm
    | some node =>
        obtain ⟨old, rfl⟩ := hnodes node hnode
        rw [hnode] at h
        exact (Except.ok.inj h).symm
  rw [hafter]
  refine ⟨location, fileLocation_place hlocation hplain _, ?_⟩
  intro node hnode
  rw [node?_place_self disk hroot] at hnode
  exact ⟨content, (Option.some.inj hnode).symm⟩

end ExpiringCache.Disk
