import ExpiringCache.Log.Event
/-!
# Log filters

A filter is a list of rules. A rule may concern only the parts whose name starts with a text, and
only events that carry a field; its threshold is the least grave level that it shows. Of the rules
that concern an event the most specific one decides: the one with the longer text, then the one with
a field, and of equal ones the last. An event that no rule concerns is dropped.
-/

namespace ExpiringCache.Log

/-- What is shown of the events of some parts. -/
structure Rule where
  /-- What the name of the part starts with, or any part. -/
  part? : Option String := none
  /-- The field that an event has to carry, or none. -/
  field? : Option String := none
  /-- The least grave level shown, or none at all. -/
  threshold? : Option Level
deriving DecidableEq

abbrev Filter := List Rule

/-- The field that holds the words of an event. Events carry no other. -/
def wordsField : String := "message"

namespace Rule

/-- The rule applies to the events of a part. -/
def Concerns (rule : Rule) (origin : Origin) : Prop :=
  (∀ part ∈ rule.part?, part.toList <+: origin.text.toList) ∧
    ∀ field ∈ rule.field?, field = wordsField

instance (rule : Rule) (origin : Origin) : Decidable (rule.Concerns origin) :=
  inferInstanceAs (Decidable ((∀ part ∈ rule.part?, part.toList <+: origin.text.toList) ∧
    ∀ field ∈ rule.field?, field = wordsField))

/-- The length of the text that a rule compares, in bytes; rules for any part come last. -/
def reach (rule : Rule) : Nat :=
  match rule.part? with
  | none => 0
  | some part => part.utf8ByteSize + 1

/-- The first rule is not more specific than the second. -/
def YieldsTo (a b : Rule) : Prop :=
  a.reach < b.reach ∨ (a.reach = b.reach ∧ (a.field?.isSome → b.field?.isSome))

instance (a b : Rule) : Decidable (a.YieldsTo b) :=
  inferInstanceAs (Decidable (a.reach < b.reach ∨
    (a.reach = b.reach ∧ (a.field?.isSome → b.field?.isSome))))

def Shows (rule : Rule) (level : Level) : Prop :=
  ∃ threshold ∈ rule.threshold?, level.rank ≤ threshold.rank

instance (rule : Rule) (level : Level) : Decidable (rule.Shows level) :=
  inferInstanceAs (Decidable (∃ threshold ∈ rule.threshold?, level.rank ≤ threshold.rank))

end Rule

namespace Filter

/-- The filter in use where none is given: everything of the service from `info` on. -/
def standard : Filter := [{ part? := some "ttl_cache", threshold? := some .info }]

def deciding? (filter : Filter) (origin : Origin) : Option Rule :=
  (filter.filter (·.Concerns origin)).foldl
    (fun best? rule =>
      match best? with
      | none => some rule
      | some best => if best.YieldsTo rule then some rule else some best)
    none

def Shows (filter : Filter) (event : Event) : Prop :=
  ∃ rule ∈ filter.deciding? event.origin, rule.Shows event.level

instance (filter : Filter) (event : Event) : Decidable (filter.Shows event) :=
  inferInstanceAs (Decidable (∃ rule ∈ filter.deciding? event.origin, rule.Shows event.level))

end Filter

end ExpiringCache.Log
