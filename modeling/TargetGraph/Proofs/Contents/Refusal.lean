import TargetGraph.Proofs.Contents.Reading

set_option relaxedAutoImplicit false
set_option autoImplicit false

/-!
# What reading refuses

Messages are refused for a text that cannot be read, never for a key that gets a second value.

## Main definitions

* `TargetGraph.NoDuplicate` — something does not fail for a second value of a key.

## Main results

* `TargetGraph.Contents.noDuplicate_read` — the reading of messages does not.
-/

namespace TargetGraph

variable {α β : Type}

/-- A reading does not fail for a second value of a key. -/
def NoDuplicate (read : Except GraphError α) : Prop :=
  ∀ slot, read ≠ .error (.duplicate slot)

namespace NoDuplicate

/-- What is there without reading does not fail at all. -/
theorem of_pure (value : α) : NoDuplicate (pure value) :=
  fun _ => nofun

/-- A reading that goes on with what it read. -/
theorem bind {first : Except GraphError α} {next : α → Except GraphError β}
    (hfirst : NoDuplicate first) (hnext : ∀ value, NoDuplicate (next value)) :
    NoDuplicate (first >>= next) := by
  cases first with
  | error e => exact fun slot h => hfirst slot (congrArg Except.error (Except.error.inj h))
  | ok value => exact hnext value

/-- What is done with the result of a reading. -/
theorem map {first : Except GraphError α} (hfirst : NoDuplicate first) (f : α → β) :
    NoDuplicate (f <$> first) := by
  cases first with
  | error e => exact fun slot h => hfirst slot (congrArg Except.error (Except.error.inj h))
  | ok value => exact fun _ => nofun

/-- A list that is read entry by entry. -/
theorem mapM {read : α → Except GraphError β} (hread : ∀ entry, NoDuplicate (read entry))
    (entries : List α) : NoDuplicate (entries.mapM read) := by
  induction entries with
  | nil => exact of_pure []
  | cons entry rest ih =>
    rw [List.mapM_cons]
    exact (hread entry).bind fun _ => ih.bind fun _ => of_pure _

/-- A part that is read on a condition. -/
theorem ite {c : Prop} [Decidable c] {first : Except GraphError α} (hfirst : NoDuplicate first) :
    NoDuplicate (if c then some <$> first else pure none) := by
  split
  · exact hfirst.map some
  · exact of_pure none

end NoDuplicate

open NoDuplicate

/-- A text that is no label is refused as such. -/
theorem Label.noDuplicate_read (raw : String) : NoDuplicate (Label.read raw) := by
  unfold Label.read
  split <;> exact fun _ => nofun

/-- A text that is no location is refused as such. -/
theorem Location.noDuplicate_read (raw : String) : NoDuplicate (Location.read raw) := by
  unfold Location.read
  split <;> exact fun _ => nofun

/-- The values of an attribute are refused as labels. -/
theorem AttributeMessage.noDuplicate_readLabels (a : AttributeMessage) :
    NoDuplicate a.readLabels :=
  mapM Label.noDuplicate_read a.values

/-- A rule is refused for a label in it.

**Proof sketch.** Reading a rule is put together from readings of labels (`RuleMessage.read_eq`):
one after another, over a list, or on a condition. None of these ways brings in a key that has two
values. -/
theorem RuleMessage.noDuplicate_read (v : Vocabulary) (r : RuleMessage) :
    NoDuplicate (r.read v) := by
  have hlisting : NoDuplicate (r.readListing v) :=
    (mapM (fun a => a.noDuplicate_readLabels.bind fun _ => of_pure _) _).bind fun _ => of_pure _
  have hmembers : NoDuplicate (r.readMembers v) :=
    (mapM AttributeMessage.noDuplicate_readLabels _).bind fun _ => of_pure _
  rw [RuleMessage.read_eq]
  refine (Label.noDuplicate_read r.name).bind fun label => ?_
  exact hlisting.ite.bind fun _ => hmembers.ite.bind fun _ => of_pure _

/-- A source file is refused for its label or its location. -/
theorem FileMessage.noDuplicate_readSource (f : FileMessage) : NoDuplicate f.readSource := by
  refine (Label.noDuplicate_read f.name).bind fun label => ?_
  split
  · exact ((Location.noDuplicate_read _).map some).bind fun _ => of_pure _
  · exact (of_pure none).bind fun _ => of_pure _

namespace Contents

/-- **The reading of messages does not fail for a second value of a key.**

**Proof sketch.** It is put together from readings of labels and locations by `NoDuplicate.bind`,
`NoDuplicate.map` and `NoDuplicate.mapM`, message by message, and each of these is refused for its
text. -/
theorem noDuplicate_read (v : Vocabulary) (messages : List Message) :
    NoDuplicate (Contents.read v messages) := by
  have hdeclared : ∀ message, NoDuplicate (readDeclared v message) := by
    intro message
    cases message with
    | rule r => exact (r.noDuplicate_read v).bind fun _ => of_pure _
    | generatedFile f => exact (Label.noDuplicate_read f.name).bind fun _ => of_pure _
    | sourceFile _ | blank | other => exact of_pure none
  have hsource : ∀ message, NoDuplicate (readSource message) := by
    intro message
    cases message with
    | sourceFile f => exact f.noDuplicate_readSource.bind fun _ => of_pure _
    | rule _ | generatedFile _ | blank | other => exact of_pure none
  exact (mapM hdeclared messages).bind fun _ => (mapM hsource messages).bind fun _ => of_pure _

end Contents

end TargetGraph
