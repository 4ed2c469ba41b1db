import ExpiringCache.Config
import ExpiringCache.Proofs.Text.Numeral
/-!
# The grammar of the environment

A setting follows the value of one variable: where the value is a text of the setting's form, the
setting is what the text says, and in every other case it is the default. The readers of the four
forms accept exactly these, so the configuration is known setting by setting.
-/

namespace ExpiringCache

theorem KeyFilter.accepts_startingWith_iff {text key : String} :
    (startingWith text).accepts key = true ↔ ∃ rest, key = text ++ rest := by
  rw [accepts, List.isPrefixOf_iff_prefix]
  constructor
  · rintro ⟨rest, hrest⟩
    refine ⟨String.ofList rest, ?_⟩
    rw [← String.toList_inj, String.toList_append, String.toList_ofList, hrest]
  · rintro ⟨rest, rfl⟩
    rw [String.toList_append]
    exact List.prefix_append _ _

namespace Config

/-- The setting is what the value says if it is a text of the form, and the default otherwise. -/
def Follows {α : Type} (value? : Option (List UInt8)) (form : String → α → Prop)
    (default setting : α) : Prop :=
  (∀ text found, value? = some (Utf8.encode text) → form text found → setting = found) ∧
    ((∀ text found, value? = some (Utf8.encode text) → ¬form text found) → setting = default)

/-- A decimal numeral of a 64-bit number of units. -/
def IsAmount (unit : Nat) (text : String) (amount : Duration) : Prop :=
  ∃ n : UInt64, Numeral.IsDecimal text.toList n.toNat ∧ amount.toNanos = n.toNat * unit

variable {environment : Environment} {name : String}

theorem text?_eq_some_iff {text : String} :
    environment.text? name = some text ↔ environment.lookup name = some (Utf8.encode text) := by
  rw [Environment.text?, Option.bind_eq_some_iff]
  constructor
  · rintro ⟨bytes, hvalue, hdecode⟩
    cases hread : Utf8.decode bytes with
    | error fault =>
        rw [hread] at hdecode
        cases hdecode
    | ok found =>
        rw [hread] at hdecode
        obtain rfl := Option.some.inj hdecode
        rw [hvalue, Utf8.decode_eq_ok_iff.1 hread]
  · intro hvalue
    refine ⟨Utf8.encode text, hvalue, ?_⟩
    rw [Utf8.decode_encode]
    rfl

/-- A reader that accepts exactly the texts of a form makes its setting follow the variable. -/
theorem follows_read {α : Type} {form : String → α → Prop} {read : String → Option α}
    (h : ∀ text found, read text = some found ↔ form text found) (default : α) :
    Follows (environment.lookup name) form default
      (((environment.text? name).bind read).getD default) := by
  constructor
  · intro text found hvalue hform
    rw [text?_eq_some_iff.2 hvalue, Option.bind_some, (h text found).2 hform, Option.getD_some]
  · intro hnone
    cases hread : (environment.text? name).bind read with
    | none => rfl
    | some found =>
        obtain ⟨text, htext, hfound⟩ := Option.bind_eq_some_iff.1 hread
        exact absurd ((h text found).1 hfound) (hnone text found (text?_eq_some_iff.1 htext))

theorem follows_text (default : String) :
    Follows (environment.lookup name) (fun text found => found = text) default
      ((environment.text? name).getD default) := by
  have hread : ∀ text found : String, some text = some found ↔ found = text := by
    intro text found
    rw [Option.some.injEq, eq_comm]
  have hfollows : Follows (environment.lookup name) (fun text found => found = text) default
      (((environment.text? name).bind some).getD default) := follows_read hread default
  rwa [Option.bind_fun_some] at hfollows

theorem cleanupInterval?_eq_some_iff {text : String} {interval : Duration} :
    cleanupInterval? text = some interval ↔ IsAmount nanosPerMilli text interval := by
  rw [cleanupInterval?, Option.map_eq_some_iff]
  refine exists_congr fun n => and_congr Numeral.word?_eq_some_iff ?_
  rw [← Duration.toNanos_inj, Duration.toNanos_ofMillis, eq_comm]

theorem reloadTtl?_eq_some_iff {text : String} {ttl : Duration} :
    reloadTtl? text = some ttl ↔ IsAmount nanosPerSecond text ttl := by
  rw [reloadTtl?, Option.map_eq_some_iff]
  refine exists_congr fun n => and_congr Numeral.word?_eq_some_iff ?_
  rw [← Duration.toNanos_inj, Duration.toNanos_ofSeconds, eq_comm]

theorem snapshotPath?_eq_some_iff {text path : String} :
    snapshotPath? text = some path ↔ text ≠ "" ∧ path = text := by
  rw [snapshotPath?]
  by_cases hempty : text = ""
  · simp [hempty]
  · simp [hempty, eq_comm]

/-! ### Setting one variable -/

theorem text?_cons (environment : Environment) (name other text : String) :
    Environment.text? ((other, Utf8.encode text) :: environment) name =
      if name = other then some text else environment.text? name := by
  split
  · rename_i hname
    rw [hname]
    exact text?_eq_some_iff.2 List.lookup_cons_self
  · rename_i hname
    rw [Environment.text?, Environment.text?, List.lookup_cons, beq_false_of_ne hname]

theorem ofEnvironment_cleanupInterval (environment : Environment) {text : String} {n : UInt64}
    (h : Numeral.word? text = some n) :
    ofEnvironment (("CLEANUP_INTERVAL_MS", Utf8.encode text) :: environment) =
      { ofEnvironment environment with cleanupInterval := .ofMillis n } := by
  simp [ofEnvironment, text?_cons, cleanupInterval?, h]

theorem ofEnvironment_reloadTtl (environment : Environment) {text : String} {n : UInt64}
    (h : Numeral.word? text = some n) :
    ofEnvironment (("RELOAD_TTL_SECS", Utf8.encode text) :: environment) =
      { ofEnvironment environment with reloadTtl := .ofSeconds n } := by
  simp [ofEnvironment, text?_cons, reloadTtl?, h]

/-- **The environment is read by its grammar.** Each of the four settings follows its own variable:
a value that is a text of the setting's form is taken, and anything else leaves the default. A
number is read from what is printed for it, with or without a plus sign and zeros before it, and
changes no other setting. The policy of the configuration takes the keys that start with the prefix
and keeps the time to live. -/
theorem ofEnvironment_reads_grammar (environment : Environment) :
    let config := ofEnvironment environment
    (Follows (environment.lookup "CLEANUP_INTERVAL_MS") (IsAmount nanosPerMilli) (.ofMillis 1000)
        config.cleanupInterval ∧
      Follows (environment.lookup "SNAPSHOT_PATH") (fun text path => text ≠ "" ∧ path = text)
        "cache.db" config.snapshotPath ∧
      Follows (environment.lookup "SNAPSHOT_PREFIX") (fun text found => found = text) "fakeip:"
        config.snapshotPrefix ∧
      Follows (environment.lookup "RELOAD_TTL_SECS") (IsAmount nanosPerSecond) (.ofSeconds 600)
        config.reloadTtl) ∧
    (∀ other : Environment,
      (other.lookup "CLEANUP_INTERVAL_MS" = environment.lookup "CLEANUP_INTERVAL_MS" →
        (ofEnvironment other).cleanupInterval = config.cleanupInterval) ∧
      (other.lookup "SNAPSHOT_PATH" = environment.lookup "SNAPSHOT_PATH" →
        (ofEnvironment other).snapshotPath = config.snapshotPath) ∧
      (other.lookup "SNAPSHOT_PREFIX" = environment.lookup "SNAPSHOT_PREFIX" →
        (ofEnvironment other).snapshotPrefix = config.snapshotPrefix) ∧
      (other.lookup "RELOAD_TTL_SECS" = environment.lookup "RELOAD_TTL_SECS" →
        (ofEnvironment other).reloadTtl = config.reloadTtl)) ∧
    (∀ (n : UInt64) (sign : String) (zeros : Nat), sign = "" ∨ sign = "+" →
      let printed := Utf8.encode (sign ++ String.ofList (List.replicate zeros '0') ++ toString n)
      ofEnvironment (("CLEANUP_INTERVAL_MS", printed) :: environment) =
        { config with cleanupInterval := .ofMillis n } ∧
      ofEnvironment (("RELOAD_TTL_SECS", printed) :: environment) =
        { config with reloadTtl := .ofSeconds n }) ∧
    (∀ key, config.snapshotPolicy.filter.accepts key = true ↔
      ∃ rest, key = config.snapshotPrefix ++ rest) ∧
    config.snapshotPolicy.reloadTtl = config.reloadTtl := by
  intro config
  refine ⟨⟨?_, ?_, ?_, ?_⟩, ?_, ?_, fun key => KeyFilter.accepts_startingWith_iff, rfl⟩
  · exact follows_read (fun _ _ => cleanupInterval?_eq_some_iff) _
  · exact follows_read (fun _ _ => snapshotPath?_eq_some_iff) _
  · exact follows_text _
  · exact follows_read (fun _ _ => reloadTtl?_eq_some_iff) _
  · intro other
    refine ⟨?_, ?_, ?_, ?_⟩ <;> intro hvalue <;>
      simp only [config, ofEnvironment, Environment.text?, hvalue]
  · intro n sign zeros hsign printed
    have hword : Numeral.word? (sign ++ String.ofList (List.replicate zeros '0') ++ toString n) =
        some n := Numeral.word?_printed hsign zeros n
    exact ⟨ofEnvironment_cleanupInterval environment hword,
      ofEnvironment_reloadTtl environment hword⟩

example :
    ofEnvironment [("CLEANUP_INTERVAL_MS", Utf8.encode "+0250"), ("SNAPSHOT_PREFIX", []),
        ("SNAPSHOT_PATH", []), ("RELOAD_TTL_SECS", Utf8.encode "18446744073709551616")] =
      { cleanupInterval := .ofMillis 250, snapshotPrefix := "" } := by
  decide +kernel

end Config

end ExpiringCache
