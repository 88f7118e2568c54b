import TargetGraph.Proofs.ByteOrder
import TargetGraph.Proofs.LabelSet

set_option relaxedAutoImplicit false
set_option autoImplicit false

/-!
# Who owns a source, declared

What a report declares about sources is which rule lists a label, and which members each file group
has. Who owns a label follows from that without any order in which things are looked at.

## Main definitions

* `TargetGraph.Declaration` — who lists which label, and the members of the groups.
* `TargetGraph.Declaration.Leads` — a chain of memberships from a group to a label.
* `TargetGraph.Declaration.Owned` — the owner of a label, if it has one.

## Main results

* `TargetGraph.Declaration.Owned.unique` — a label has one owner at most.
* `TargetGraph.Declaration.Owned.of_perm` — the order of the members of a group does not matter.
-/

namespace TargetGraph

/-- What a report declares about sources. -/
structure Declaration where
  /-- The rule that lists a label as one of its sources. -/
  lister : Label → Option Label
  /-- The members of a file group. -/
  members : Label → Option (List Label)

namespace Declaration

variable {d e : Declaration} {group inner source owner : Label} {listed : List Label}

/-- A chain of memberships leads from a group to a label. The groups between the two are listed by
no rule. -/
inductive Leads (d : Declaration) (group : Label) : Label → Prop
  /-- The label is a member of the group. -/
  | member {source : Label} {listed : List Label} (hmembers : d.members group = some listed)
      (hsource : source ∈ listed) : Leads d group source
  /-- The label is a member of an unlisted group that the chain leads to. -/
  | through {inner source : Label} {listed : List Label} (hinner : Leads d group inner)
      (hlister : d.lister inner = none) (hmembers : d.members inner = some listed)
      (hsource : source ∈ listed) : Leads d group source

/-- The group is the least of the listed groups that lead to the label, in the order of bytes. -/
structure Forwards (d : Declaration) (group source : Label) : Prop where
  /-- A rule lists the group. -/
  listed : (d.lister group).isSome
  /-- The group leads to the label. -/
  leads : d.Leads group source
  /-- No lesser one does. -/
  least : ∀ other, (d.lister other).isSome → d.Leads other source →
    Text.utf8 group.text ≤ Text.utf8 other.text

/-- The owner of a label, if it has one. -/
inductive Owned (d : Declaration) (source : Label) : Option Label → Prop
  /-- The rule that lists the label. -/
  | listed {owner : Label} (hlister : d.lister source = some owner) : Owned d source (some owner)
  /-- For a label that no rule lists, the rule that lists the least group which leads to it. -/
  | forwarded {group owner : Label} (hlister : d.lister source = none)
      (hgroup : d.Forwards group source) (howner : d.lister group = some owner) :
      Owned d source (some owner)
  /-- Nobody, where no listed group leads to the label either. -/
  | unowned (hlister : d.lister source = none)
      (hgroups : ∀ group, (d.lister group).isSome → ¬d.Leads group source) : Owned d source none

/-! ### One owner at most -/

/-- The least group is one group: each of two would be at most the other, and the order is that of
the bytes (`Label.isLE_compare_iff`). -/
theorem Forwards.unique {other : Label} (h : d.Forwards group source)
    (hother : d.Forwards other source) : group = other := by
  have hle := (Label.isLE_compare_iff _ _).mpr (h.least other hother.listed hother.leads)
  have hge := (Label.isLE_compare_iff _ _).mpr (hother.least group h.listed h.leads)
  exact Std.LawfulEqCmp.eq_of_compare (Std.OrientedCmp.isLE_antisymm hle hge)

/-- A label has one owner at most.

**Proof sketch.** Whether a rule lists the label, and whether a listed group leads to it, exclude
each other's cases. Where both owners come from a group, it is the same one (`Forwards.unique`). -/
theorem Owned.unique {first second : Option Label} (hfirst : d.Owned source first)
    (hsecond : d.Owned source second) : first = second := by
  cases hfirst with
  | listed hlister =>
    cases hsecond with
    | listed hlister' => exact hlister.symm.trans hlister'
    | forwarded hlister' => rw [hlister'] at hlister; cases hlister
    | unowned hlister' => rw [hlister'] at hlister; cases hlister
  | forwarded hlister hgroup howner =>
    cases hsecond with
    | listed hlister' => rw [hlister'] at hlister; cases hlister
    | forwarded _ hgroup' howner' =>
      obtain rfl := hgroup.unique hgroup'
      exact howner.symm.trans howner'
    | unowned _ hgroups => exact absurd hgroup.leads (hgroups _ hgroup.listed)
  | unowned hlister hgroups =>
    cases hsecond with
    | listed hlister' => rw [hlister'] at hlister; cases hlister
    | forwarded _ hgroup => exact absurd hgroup.leads (hgroups _ hgroup.listed)
    | unowned => rfl

/-! ### The order of members -/

/-- Whatever is a member of a group is one too when the members stand in another order. -/
theorem exists_members_of_perm (hmembers : Option.Rel List.Perm (d.members group) (e.members group))
    (h : d.members group = some listed) (hsource : source ∈ listed) :
    ∃ listed', e.members group = some listed' ∧ source ∈ listed' := by
  rw [h] at hmembers
  generalize e.members group = other at hmembers
  cases hmembers with
  | some hperm => exact ⟨_, rfl, hperm.mem_iff.mp hsource⟩

/-- A chain is one too when the members of groups stand in another order, by induction on the chain
with `exists_members_of_perm` at each link. -/
theorem Leads.of_perm (hlister : d.lister = e.lister)
    (hmembers : ∀ group, Option.Rel List.Perm (d.members group) (e.members group))
    (h : d.Leads group source) : e.Leads group source := by
  induction h with
  | member hgroup hsource =>
    obtain ⟨listed, hlisted, hmem⟩ := exists_members_of_perm (hmembers _) hgroup hsource
    exact .member hlisted hmem
  | through _ hunlisted hinner hsource ih =>
    obtain ⟨listed, hlisted, hmem⟩ := exists_members_of_perm (hmembers _) hinner hsource
    exact .through ih (hlister ▸ hunlisted) hlisted hmem

/-- Two declarations that differ in the order of members have the same chains.

**Proof sketch.** A chain of one is a chain of the other (`Leads.of_perm`), and the other way, since
what is a permutation one way is one the other way too. -/
theorem leads_congr (hlister : d.lister = e.lister)
    (hmembers : ∀ group, Option.Rel List.Perm (d.members group) (e.members group)) :
    d.Leads group source ↔ e.Leads group source := by
  refine ⟨Leads.of_perm hlister hmembers, Leads.of_perm hlister.symm fun group => ?_⟩
  have h := hmembers group
  cases hd : d.members group <;> cases he : e.members group <;> rw [hd, he] at h <;> cases h
  · exact .none
  · next hperm => exact .some hperm.symm

/-- **The order of the members of a group does not matter for who owns a label.**

**Proof sketch.** Listers are the same, and so are the chains (`leads_congr`); nothing else is asked
of a declaration in any of the three cases. -/
theorem Owned.of_perm (hlister : d.lister = e.lister)
    (hmembers : ∀ group, Option.Rel List.Perm (d.members group) (e.members group))
    {owned : Option Label} (h : d.Owned source owned) : e.Owned source owned := by
  have hleads : ∀ group source, d.Leads group source ↔ e.Leads group source :=
    fun _ _ => leads_congr hlister hmembers
  cases h with
  | listed h => exact .listed (hlister ▸ h)
  | forwarded h hgroup howner =>
    rw [hlister] at h howner
    refine .forwarded h ⟨?_, (hleads _ _).mp hgroup.leads, fun other hother hlead => ?_⟩ howner
    · simp [howner]
    · exact hgroup.least other (hlister ▸ hother) ((hleads _ _).mpr hlead)
  | unowned h hgroups =>
    refine .unowned (hlister ▸ h) fun group hgroup hlead => ?_
    exact hgroups group (hlister ▸ hgroup) ((hleads _ _).mpr hlead)

end Declaration

end TargetGraph
