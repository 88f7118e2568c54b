import TargetGraph.Ownership
import TargetGraph.Proofs.Ownership.Declaration

set_option relaxedAutoImplicit false
set_option autoImplicit false

/-!
# Handing ownership on

Forwarding comes to an end, and then every label has the owner that the declaration gives it.

## Main definitions

* `TargetGraph.Declaration.ofMaps` — the declaration that two maps hold.
* `TargetGraph.Declaration.Origin` — the listed group on whose behalf a label is owned.
* `TargetGraph.Forwarding.Progress` — what holds at every point of forwarding.
* `TargetGraph.Forwarding.potential` — how many steps forwarding may still take.

## Main results

* `TargetGraph.Forwarding.Progress.step` — a step keeps what holds.
* `TargetGraph.Forwarding.pending_finish` — in the end no group is pending.
* `TargetGraph.owned_forward` — the owners in the end are the declared ones.

## Design

An owner is right from the moment at which it is written. That the group behind a claim is the least
one rests on the order in which groups are pending: their origins ascend, and whatever leads to a
label without an owner goes through a group that is pending still.
-/

namespace TargetGraph

namespace Declaration

variable {d : Declaration} {group inner other source owner : Label} {listed : List Label}

/-- The declaration whose listers and members two maps hold. -/
def ofMaps (groups : LabelMap (List Label)) (direct : LabelMap Label) : Declaration where
  lister label := direct[label]?
  members label := groups[label]?

/-- The group on whose behalf a label is owned: the label itself where a rule lists it, else the
least listed group that leads to it. -/
inductive Origin (d : Declaration) (source : Label) : Label → Prop
  /-- The label itself. -/
  | self (hlister : (d.lister source).isSome) : Origin d source source
  /-- The least listed group. -/
  | group {group : Label} (hlister : d.lister source = none) (hgroup : d.Forwards group source) :
      Origin d source group

/-- A rule lists the origin of a label. -/
theorem Origin.isSome_lister (h : d.Origin source group) : (d.lister group).isSome := by
  cases h with
  | self hlister => exact hlister
  | group _ hgroup => exact hgroup.listed

/-- A label has one origin at most: itself if it is listed, and else the least group, which is
unique (`Forwards.unique`). -/
theorem Origin.unique (h : d.Origin source group) (hother : d.Origin source other) :
    group = other := by
  cases h with
  | self hlister =>
    cases hother with
    | self => rfl
    | group hnone => rw [hnone] at hlister; cases hlister
  | group hnone hgroup =>
    cases hother with
    | self hlister => rw [hnone] at hlister; cases hlister
    | group _ hother => exact hgroup.unique hother

/-- The rule that lists the origin of a label owns the label. -/
theorem Origin.owned (h : d.Origin source group) (howner : d.lister group = some owner) :
    d.Owned source (some owner) := by
  cases h with
  | self => exact .listed howner
  | group hlister hgroup => exact .forwarded hlister hgroup howner

/-- An owner of a label owns it on behalf of the label's origin. -/
theorem Owned.exists_origin (h : d.Owned source (some owner)) :
    ∃ group, d.Origin source group ∧ d.lister group = some owner := by
  cases h with
  | listed hlister => exact ⟨source, .self (by simp [hlister]), hlister⟩
  | forwarded hlister hgroup howner => exact ⟨_, .group hlister hgroup, howner⟩

/-- The origin of a group leads to the members of the group. -/
theorem Origin.leads (h : d.Origin inner group) (hmembers : d.members inner = some listed)
    (hsource : source ∈ listed) : d.Leads group source := by
  cases h with
  | self => exact .member hmembers hsource
  | group hlister hgroup => exact .through hgroup.leads hlister hmembers hsource

end Declaration

namespace Forwarding

variable {groups : LabelMap (List Label)} {direct : LabelMap Label} {f : Forwarding}
  {group member owner source : Label} {listed : List Label} {entry : Label × Label}
  {rest : List (Label × Label)}

/-! ### Claims -/

/-- A member that has an owner keeps it. -/
theorem claimMember_of_isSome (h : (f.owners[member]?).isSome) :
    claimMember groups owner f member = f :=
  if_pos (Std.ExtTreeMap.contains_eq_isSome_getElem?.trans h)

/-- A member without an owner is claimed. -/
theorem claimMember_of_none (h : f.owners[member]? = none) :
    claimMember groups owner f member =
      { owners := f.owners.insert member owner
        pending := if groups.contains member then (member, owner) :: f.pending else f.pending } :=
  if_neg (LabelMap.not_contains_iff.mpr h)

/-- After the claim of one member, a label has the owner it had, or is that member.

**Proof sketch.** A member that has an owner is passed over, and keeps it. A member without one gets
the claimant, and no other label is touched. -/
theorem getElem?_owners_claimMember : (claimMember groups owner f member).owners[source]? =
    f.owners[source]?.or (if source = member then some owner else none) := by
  cases hmember : f.owners[member]? with
  | some _ =>
    rw [claimMember_of_isSome (by simp [hmember])]
    by_cases hsource : source = member
    · simp [hsource, hmember]
    · simp [hsource]
  | none =>
    rw [claimMember_of_none hmember, LabelMap.getElem?_insert]
    by_cases hsource : source = member
    · simp [hsource, hmember]
    · simp [hsource, Ne.symm hsource]

/-- After the claims of some members, a label has the owner it had, or is one of them. By induction
on the members, one claim at a time. -/
theorem getElem?_owners_foldl : (listed.foldl (claimMember groups owner) f).owners[source]? =
    f.owners[source]?.or (if source ∈ listed then some owner else none) := by
  induction listed generalizing f with
  | nil => simp
  | cons first others ih =>
    rw [List.foldl_cons, ih, getElem?_owners_claimMember, Option.or_assoc]
    congr 1
    by_cases hfirst : source = first <;> simp [hfirst]

/-- A label has no owner after a claim when it had none before and is not the one claimed. -/
theorem owners_claimMember_eq_none_iff :
    (claimMember groups owner f member).owners[source]? = none ↔
      f.owners[source]? = none ∧ source ≠ member := by
  rw [getElem?_owners_claimMember, Option.or_eq_none_iff]
  by_cases hsource : source = member <;> simp [hsource]

/-- What is pending after the claim of one member: what was before, and the member for the claimant
if it is a group that had no owner. -/
theorem pending_claimMember : (claimMember groups owner f member).pending =
    if f.owners[member]? = none ∧ (groups[member]?).isSome then (member, owner) :: f.pending
    else f.pending := by
  cases hmember : f.owners[member]? with
  | some _ => rw [claimMember_of_isSome (by simp [hmember]), if_neg (by simp)]
  | none =>
    rw [claimMember_of_none hmember]
    simp only [Std.ExtTreeMap.contains_eq_isSome_getElem?, true_and]

/-- The claims of some members add to what is pending: the groups among the members that had no
owner, for the claimant.

**Proof sketch.** By induction on the members, with `pending_claimMember` for the first of them.
What the rest adds is said about the owners after that first claim; a member that comes twice has
its owner by the second time, so no group is added twice. -/
theorem pending_foldl (groups : LabelMap (List Label)) (owner : Label) (listed : List Label)
    (f : Forwarding) :
    ∃ added, (listed.foldl (claimMember groups owner) f).pending = added ++ f.pending ∧
      ∀ entry : Label × Label, entry ∈ added ↔ entry.2 = owner ∧ entry.1 ∈ listed ∧
        f.owners[entry.1]? = none ∧ (groups[entry.1]?).isSome := by
  induction listed generalizing f with
  | nil => exact ⟨[], rfl, by simp⟩
  | cons first others ih =>
    obtain ⟨added, hadded, hmem⟩ := ih (claimMember groups owner f first)
    simp only [owners_claimMember_eq_none_iff] at hmem
    rw [List.foldl_cons, hadded, pending_claimMember]
    by_cases hnew : f.owners[first]? = none ∧ (groups[first]?).isSome
    · -- the first member is pending now, and no entry of the others is about it
      refine ⟨added ++ [(first, owner)], ?_, fun entry => ?_⟩
      · rw [if_pos hnew, List.append_assoc, List.singleton_append]
      · obtain ⟨label, claimant⟩ := entry
        simp only [List.mem_append, List.mem_cons, List.not_mem_nil, or_false, Prod.mk.injEq, hmem]
        by_cases hlabel : label = first
        · subst hlabel
          simp only [hnew]
          simp
        · simp [hlabel]
    · refine ⟨added, by rw [if_neg hnew], fun entry => ?_⟩
      rw [hmem, List.mem_cons]
      constructor
      · rintro ⟨howner, hlisted, ⟨hnone, _⟩, hgroup⟩
        exact ⟨howner, .inr hlisted, hnone, hgroup⟩
      · rintro ⟨howner, hlisted, hnone, hgroup⟩
        have hne : entry.1 ≠ first := fun heq => hnew (heq ▸ ⟨hnone, hgroup⟩)
        exact ⟨howner, hlisted.resolve_left hne, ⟨hnone, hne⟩, hgroup⟩

/-- What a step does with the next pending group: its members without an owner get one, and the
groups among them are pending from then on. -/
structure Dealt (groups : LabelMap (List Label)) (f : Forwarding) (group owner : Label)
    (added rest : List (Label × Label)) (after : Forwarding) : Prop where
  /-- The group was the next one. -/
  next : f.pending = (group, owner) :: rest
  /-- A label has the owner it had, or is a member of the group. -/
  owners : ∀ source, after.owners[source]? =
    f.owners[source]?.or (if source ∈ (groups[group]?).getD [] then some owner else none)
  /-- The group is pending no more, but others may be. -/
  pending : after.pending = added ++ rest
  /-- Those are the groups among the members that had no owner. -/
  mem_added : ∀ entry, entry ∈ added ↔ entry.2 = owner ∧ entry.1 ∈ (groups[group]?).getD [] ∧
    f.owners[entry.1]? = none ∧ (groups[entry.1]?).isSome

/-- What a step does while some group is pending.

**Proof sketch.** The group is taken off what is pending, and its members are claimed one after the
other. What this does to the owners is `getElem?_owners_foldl`, and what it adds to what is pending
is `pending_foldl`. -/
theorem dealt_step (h : f.pending = (group, owner) :: rest) :
    ∃ added, Dealt groups f group owner added rest (f.step groups) := by
  have hstep : f.step groups =
      ((groups[group]?).getD []).foldl (claimMember groups owner) { f with pending := rest } := by
    unfold step
    rw [h]
  obtain ⟨added, hadded, hmem⟩ :=
    pending_foldl groups owner ((groups[group]?).getD []) { f with pending := rest }
  refine ⟨added, h, fun source => ?_, ?_, hmem⟩
  · rw [hstep, getElem?_owners_foldl]
  · rw [hstep, hadded]

/-! ### What holds while ownership is handed on -/

/-- What holds at every point of forwarding. -/
structure Progress (d : Declaration) (f : Forwarding) : Prop where
  /-- A listed label is owned by the rule that lists it. -/
  listed : ∀ source owner, d.lister source = some owner → f.owners[source]? = some owner
  /-- Every owner is the declared one. -/
  owned : ∀ source owner, f.owners[source]? = some owner → d.Owned source (some owner)
  /-- A pending group is pending for the rule that owns it. -/
  claimed : ∀ entry ∈ f.pending, f.owners[entry.1]? = some entry.2
  /-- The origins of the pending groups ascend. -/
  ascending : f.pending.Pairwise fun first second => ∀ group other,
    d.Origin first.1 group → d.Origin second.1 other → (compare group other).isLE
  /-- An owned group is pending while some member of it has no owner. -/
  unfinished : ∀ group owner listed source, d.members group = some listed → source ∈ listed →
    f.owners[group]? = some owner → f.owners[source]? = none → (group, owner) ∈ f.pending

/-- Whatever leads to a label without an owner does so through a pending group, whose origin is no
greater.

**Proof sketch.** Follow the chain from its listed group. The group is owned; the label at the end
is not. So some group on the way is owned and has a member that is not, and that group is pending.
It is the first group itself, which is its own origin, or one that the first group leads to. -/
theorem Progress.exists_pending {d : Declaration} (hf : Progress d f)
    (hgroup : (d.lister group).isSome) (hleads : d.Leads group source)
    (hsource : f.owners[source]? = none) :
    ∃ entry ∈ f.pending, ∃ origin, d.Origin entry.1 origin ∧ (compare origin group).isLE := by
  induction hleads with
  | member hmembers hmem =>
    obtain ⟨owner, howner⟩ := Option.isSome_iff_exists.mp hgroup
    have howned := hf.listed group owner howner
    refine ⟨(group, owner), hf.unfinished _ _ _ _ hmembers hmem howned hsource, group, ?_, ?_⟩
    · exact .self hgroup
    · exact Std.ReflCmp.isLE_rfl
  | @through inner _ _ hinner hlister hmembers hmem ih =>
    cases hinnerOwner : f.owners[inner]? with
    | none => exact ih hinnerOwner
    | some owner =>
      obtain ⟨origin, horigin, _⟩ := (hf.owned inner owner hinnerOwner).exists_origin
      refine ⟨(inner, owner), hf.unfinished _ _ _ _ hmembers hmem hinnerOwner hsource, origin,
        horigin, ?_⟩
      cases horigin with
      | self hsome => rw [hlister] at hsome; cases hsome
      | group _ hforwards =>
        exact (Label.isLE_compare_iff _ _).mpr (hforwards.least group hgroup hinner)

/-- The origin of the next pending group is the least of all origins, and the origin of the group's
members without an owner.

**Proof sketch.** The origin leads to such a member by way of the group
(`Declaration.Origin.leads`). Any other listed group that leads to it goes through something that is
pending, by `Progress.exists_pending`, and the origins of what is pending ascend, so it is not less
than the first of them. That no rule lists the member follows from its having no owner. -/
theorem Progress.origin_member (hf : Progress (.ofMaps groups direct) f)
    (hpending : f.pending = (group, owner) :: rest) {origin : Label}
    (horigin : (Declaration.ofMaps groups direct).Origin group origin)
    (hmem : source ∈ (groups[group]?).getD []) (hsource : f.owners[source]? = none) :
    (Declaration.ofMaps groups direct).Origin source origin := by
  obtain ⟨members, hmembers⟩ : ∃ members, groups[group]? = some members := by
    rw [← Option.ne_none_iff_exists']
    intro hnone
    simp [hnone] at hmem
  rw [hmembers, Option.getD_some] at hmem
  have hlister : direct[source]? = none := by
    rw [Option.eq_none_iff_forall_ne_some]
    intro lister hlister
    rw [hf.listed source lister hlister] at hsource
    cases hsource
  refine .group hlister ⟨horigin.isSome_lister, horigin.leads hmembers hmem, ?_⟩
  intro other hother hleads
  obtain ⟨entry, hentry, least, hleast, hle⟩ := hf.exists_pending hother hleads hsource
  refine (Label.isLE_compare_iff _ _).mp (Std.TransCmp.isLE_trans ?_ hle)
  have hascending := hf.ascending
  rw [hpending] at hentry hascending
  rcases List.mem_cons.mp hentry with rfl | hentry
  · obtain rfl := horigin.unique hleast
    exact Std.ReflCmp.isLE_rfl
  · exact (List.pairwise_cons.mp hascending).1 entry hentry _ _ horigin hleast

section Step

variable {after : Forwarding} {added : List (Label × Label)} {origin : Label}

/-- What a step claims has the origin of the group that it deals with. -/
theorem Progress.origin_of_mem_added (hf : Progress (.ofMaps groups direct) f)
    (h : Dealt groups f group owner added rest after)
    (horigin : (Declaration.ofMaps groups direct).Origin group origin) (hentry : entry ∈ added) :
    (Declaration.ofMaps groups direct).Origin entry.1 origin := by
  obtain ⟨_, hmem, hnone, _⟩ := (h.mem_added entry).mp hentry
  exact hf.origin_member h.next horigin hmem hnone

/-- The origins of the pending groups ascend after a step.

**Proof sketch.** What the step adds has the origin of the group that it dealt with, which came
first and so is not greater than the origin of anything that was pending behind it. -/
theorem Progress.ascending_of_dealt (hf : Progress (.ofMaps groups direct) f)
    (h : Dealt groups f group owner added rest after)
    (horigin : (Declaration.ofMaps groups direct).Origin group origin) :
    after.pending.Pairwise fun first second => ∀ group other,
      (Declaration.ofMaps groups direct).Origin first.1 group →
      (Declaration.ofMaps groups direct).Origin second.1 other → (compare group other).isLE := by
  have hascending := hf.ascending
  rw [h.next, List.pairwise_cons] at hascending
  rw [h.pending, List.pairwise_append]
  refine ⟨List.pairwise_of_forall_mem_list ?_, hascending.2, ?_⟩
  · intro first hfirst second hsecond group other hgroup hother
    obtain rfl := (hf.origin_of_mem_added h horigin hfirst).unique hgroup
    obtain rfl := (hf.origin_of_mem_added h horigin hsecond).unique hother
    exact Std.ReflCmp.isLE_rfl
  · intro first hfirst second hsecond group other hgroup hother
    obtain rfl := (hf.origin_of_mem_added h horigin hfirst).unique hgroup
    exact hascending.1 second hsecond _ other horigin hother

/-- An owned group is pending after a step while some member of it has no owner.

**Proof sketch.** If it was owned before, it was pending before, and it is still, unless it is the
group that was dealt with; but that one has no member without an owner left. If it got its owner in
this step, it was added to what is pending. -/
theorem Progress.unfinished_of_dealt (hf : Progress (.ofMaps groups direct) f)
    (h : Dealt groups f group owner added rest after) {inner claimant : Label}
    (hmembers : groups[inner]? = some listed) (hsource : source ∈ listed)
    (hinner : after.owners[inner]? = some claimant) (hnone : after.owners[source]? = none) :
    (inner, claimant) ∈ after.pending := by
  rw [h.owners, Option.or_eq_some_iff] at hinner
  rw [h.owners, Option.or_eq_none_iff] at hnone
  rw [h.pending, List.mem_append, h.mem_added]
  rcases hinner with hinner | ⟨hunowned, hinner⟩
  · have hbefore := hf.unfinished _ _ _ _ hmembers hsource hinner hnone.1
    rw [h.next] at hbefore
    rcases List.mem_cons.mp hbefore with heq | hbefore
    · -- the group that was dealt with has no member without an owner left
      cases heq
      simp [hmembers, hsource] at hnone
    · exact .inr hbefore
  · split at hinner
    · next hin =>
      cases hinner
      exact .inl ⟨rfl, hin, hunowned, Option.isSome_iff_exists.mpr ⟨listed, hmembers⟩⟩
    · cases hinner

/-- **A step keeps what holds while ownership is handed on.**

**Proof sketch.** The members of the next pending group that have no owner get one, and all of them
have the origin of that group, which is the least origin of all. So the new owners are the declared
ones, and the groups among the members may be put before what was pending. -/
theorem Progress.step (hf : Progress (.ofMaps groups direct) f) :
    Progress (.ofMaps groups direct) (f.step groups) := by
  cases hpending : f.pending with
  | nil =>
    have hsame : f.step groups = f := by
      unfold Forwarding.step
      rw [hpending]
    rwa [hsame]
  | cons entry rest =>
    obtain ⟨group, owner⟩ := entry
    obtain ⟨added, h⟩ : ∃ added, Dealt groups f group owner added rest (f.step groups) :=
      dealt_step hpending
    have hclaimed : f.owners[group]? = some owner := hf.claimed (group, owner) (by simp [hpending])
    obtain ⟨origin, horigin, howner⟩ := (hf.owned group owner hclaimed).exists_origin
    exact {
      listed := fun source owner hlister => by
        rw [h.owners, hf.listed source owner hlister, Option.some_or]
      owned := fun source owner howned => by
        rw [h.owners, Option.or_eq_some_iff] at howned
        rcases howned with howned | ⟨hnone, howned⟩
        · exact hf.owned source owner howned
        · split at howned
          · next hsource =>
            -- a member without an owner gets that of the group, by the group's own lister
            cases howned
            exact (hf.origin_member hpending horigin hsource hnone).owned howner
          · cases howned
      claimed := fun entry hentry => by
        rw [h.pending, List.mem_append, h.mem_added] at hentry
        rw [h.owners]
        rcases hentry with ⟨rfl, hsource, hnone, _⟩ | hrest
        · rw [hnone, if_pos hsource, Option.none_or]
        · rw [hf.claimed entry (by simp [hpending, hrest]), Option.some_or]
      ascending := hf.ascending_of_dealt h horigin
      unfinished := fun _ _ _ _ hmembers hsource hinner hnone =>
        hf.unfinished_of_dealt h hmembers hsource hinner hnone }

end Step

/-- Before the first step, a group that is pending is its own origin: it is pending because a rule
lists it. -/
theorem origin_of_mem_pending_start {origin : Label}
    (hentry : entry ∈ (start groups direct).pending)
    (horigin : (Declaration.ofMaps groups direct).Origin entry.1 origin) : entry.1 = origin := by
  have hlisted := Std.ExtTreeMap.mem_toList_iff_getElem?_eq_some.mp (List.mem_filter.mp hentry).1
  exact (Declaration.Origin.self (Option.isSome_iff_exists.mpr ⟨_, hlisted⟩)).unique horigin

/-- What holds while ownership is handed on holds before the first step.

**Proof sketch.** All owners are listers then, so what is pending are groups that are their own
origins (`origin_of_mem_pending_start`), and they are taken from a map in ascending order. -/
theorem progress_start (groups : LabelMap (List Label)) (direct : LabelMap Label) :
    Progress (.ofMaps groups direct) (start groups direct) where
  listed _ _ h := h
  owned _ _ h := .listed h
  claimed entry h := Std.ExtTreeMap.mem_toList_iff_getElem?_eq_some.mp (List.mem_filter.mp h).1
  ascending := by
    refine ((Std.ExtTreeMap.ordered_keys_toList (t := direct)).filter _).imp_of_mem ?_
    intro first second hfirst hsecond hlt group other hgroup hother
    obtain rfl := origin_of_mem_pending_start hfirst hgroup
    obtain rfl := origin_of_mem_pending_start hsecond hother
    exact Ordering.isLE_of_eq_lt hlt
  unfinished group owner listed source hmembers _ hgroup _ := by
    refine List.mem_filter.mpr ⟨Std.ExtTreeMap.mem_toList_iff_getElem?_eq_some.mpr hgroup, ?_⟩
    exact Std.ExtTreeMap.contains_eq_isSome_getElem?.trans
      (Option.isSome_iff_exists.mpr ⟨listed, hmembers⟩)

/-- What holds while ownership is handed on holds after any number of steps, by `Progress.step` for
each of them. -/
theorem Progress.run (hf : Progress (.ofMaps groups direct) f) (steps : Nat) :
    Progress (.ofMaps groups direct) (f.run groups steps) := by
  induction steps generalizing f with
  | zero => exact hf
  | succ steps ih =>
    unfold Forwarding.run
    split
    · exact hf
    · exact ih hf.step

/-! ### The end of forwarding -/

/-- A bound on the number of steps that are left: one for each pending group, and one for each group
that has no owner yet. -/
def potential (groups : LabelMap (List Label)) (f : Forwarding) : Nat :=
  f.pending.length + weightWhere (fun _ => 1) (fun group => !f.owners.contains group) groups.keys

/-- A claim does not raise the potential: a group that becomes pending gets its owner.

**Proof sketch.** A member with an owner changes nothing. One without gets an owner, so no group is
counted for the first time among those without (`weightWhere_le`); and if it is a group itself, it
is counted there no more, which makes up for its being pending (`weightWhere_add_le`). -/
theorem potential_claimMember_le :
    potential groups (claimMember groups owner f member) ≤ potential groups f := by
  have hfewer : ∀ label, (!(claimMember groups owner f member).owners.contains label) = true →
      (!f.owners.contains label) = true := by
    intro label h
    rw [Bool.not_eq_true', ← Bool.not_eq_true, LabelMap.not_contains_iff] at h ⊢
    exact (owners_claimMember_eq_none_iff.mp h).1
  cases hmember : f.owners[member]? with
  | some _ => exact Nat.le_of_eq (congrArg _ (claimMember_of_isSome (by simp [hmember])))
  | none =>
    by_cases hgroup : groups.contains member = true
    · have hbefore : (!f.owners.contains member) = true := by
        rw [Bool.not_eq_true', ← Bool.not_eq_true]
        exact LabelMap.not_contains_iff.mpr hmember
      have hafter : (!(claimMember groups owner f member).owners.contains member) = false := by
        simp [claimMember_of_none hmember]
      have hlt := weightWhere_add_le (fun _ => 1) hfewer hafter hbefore
        (Std.ExtTreeMap.mem_keys.mpr hgroup)
      rw [claimMember_of_none hmember] at hlt ⊢
      simp only [potential, if_pos hgroup, List.length_cons] at hlt ⊢
      omega
    · rw [claimMember_of_none hmember] at hfewer ⊢
      simp only [potential, if_neg hgroup]
      exact Nat.add_le_add_left (weightWhere_le hfewer groups.keys) _

/-- A step uses up some of the potential.

**Proof sketch.** The group that it deals with is taken off what is pending. The claims of its
members do not raise the potential again, by induction on these with `potential_claimMember_le`. -/
theorem potential_step_lt (h : f.pending ≠ []) :
    potential groups (f.step groups) < potential groups f := by
  have hfold : ∀ (members : List Label) (owner : Label) (f : Forwarding),
      potential groups (members.foldl (claimMember groups owner) f) ≤ potential groups f := by
    intro members owner
    induction members with
    | nil => exact fun _ => Nat.le_refl _
    | cons first others ih => exact fun f => Nat.le_trans (ih _) potential_claimMember_le
  unfold step
  split
  · next hnone => exact absurd hnone h
  · next group owner rest hpending =>
    refine Nat.lt_of_le_of_lt (hfold _ owner _) ?_
    simp [potential, hpending]

/-- Forwarding that may take as many steps as its potential asks for ends with nothing pending.

**Proof sketch.** By induction on the steps that are left. A step is taken while something is
pending, and then the potential falls below what was allowed for it (`potential_step_lt`). -/
theorem pending_run_eq_nil : ∀ (steps : Nat) (f : Forwarding), potential groups f ≤ steps →
    (f.run groups steps).pending = []
  | 0, f, h => by
    have hlength : f.pending.length = 0 := by
      unfold potential at h
      omega
    exact List.length_eq_zero_iff.mp hlength
  | steps + 1, f, h => by
    unfold run
    split
    · next hempty => simpa using hempty
    · next hne =>
      have hpending : f.pending ≠ [] := by simpa using hne
      have hlt : potential groups (f.step groups) < potential groups f := potential_step_lt hpending
      exact pending_run_eq_nil steps _ (by omega)

/-- Before the first step, the groups that have an owner are pending, each once.

**Proof sketch.** Both lists have no label twice, since both are what a filter leaves of the keys of
a map, so it is enough that they have the same labels. A label is in either when it is the key of a
group and has an entry among the owners. -/
theorem perm_pending_start (groups : LabelMap (List Label)) (direct : LabelMap Label) :
    ((start groups direct).pending.map Prod.fst).Perm
      (groups.keys.filter fun group => direct.contains group) := by
  refine (List.perm_ext_iff_of_nodup ?_ ?_).mpr fun label => ?_
  · refine (List.filter_sublist.map _).nodup ?_
    rw [Std.ExtTreeMap.map_fst_toList_eq_keys]
    exact Std.ExtTreeMap.nodup_keys
  · exact List.filter_sublist.nodup Std.ExtTreeMap.nodup_keys
  · simp only [start, List.mem_map, List.mem_filter, Std.ExtTreeMap.mem_keys]
    constructor
    · rintro ⟨entry, ⟨hentry, hgroup⟩, rfl⟩
      refine ⟨hgroup, Std.ExtTreeMap.contains_eq_isSome_getElem?.trans ?_⟩
      exact Option.isSome_iff_exists.mpr
        ⟨_, Std.ExtTreeMap.mem_toList_iff_getElem?_eq_some.mp hentry⟩
    · rintro ⟨hgroup, howned⟩
      obtain ⟨owner, howner⟩ := Option.isSome_iff_exists.mp
        (Std.ExtTreeMap.contains_eq_isSome_getElem?.symm.trans howned)
      have hentry := Std.ExtTreeMap.mem_toList_iff_getElem?_eq_some.mpr howner
      exact ⟨(label, owner), ⟨hentry, hgroup⟩, rfl⟩

/-- At first the groups that are owned are pending and the others have no owner.

**Proof sketch.** So every group is counted exactly once: the pending ones are those with an owner
(`perm_pending_start`), and the potential counts the rest. -/
theorem potential_start (groups : LabelMap (List Label)) (direct : LabelMap Label) :
    potential groups (start groups direct) = groups.size := by
  have hsplit : groups.keys.length = _ :=
    List.length_eq_countP_add_countP fun group => direct.contains group
  rw [potential, ← List.length_map Prod.fst, (perm_pending_start groups direct).length_eq,
    ← Std.ExtTreeMap.length_keys, hsplit, weightWhere_one]
  simp only [start, List.countP_eq_length_filter, decide_not, Bool.decide_eq_true]

/-- **In the end no group is pending.** -/
theorem pending_finish (groups : LabelMap (List Label)) (direct : LabelMap Label) :
    (finish groups direct).pending = [] :=
  pending_run_eq_nil _ _ (Nat.le_of_eq (potential_start groups direct))

end Forwarding

/-- **In the end every label has the declared owner.**

**Proof sketch.** An owner that is written is the declared one. A label without an owner is listed
by no rule; and no listed group leads to it, because that would take a pending group, and none is
pending in the end. -/
theorem owned_forward (groups : LabelMap (List Label)) (direct : LabelMap Label) (source : Label) :
    (Declaration.ofMaps groups direct).Owned source (forward groups direct)[source]? := by
  have hf : Forwarding.Progress (.ofMaps groups direct) (Forwarding.finish groups direct) :=
    (Forwarding.progress_start groups direct).run groups.size
  cases howner : (forward groups direct)[source]? with
  | some owner => exact hf.owned source owner howner
  | none =>
    refine .unowned ?_ fun group hgroup hleads => ?_
    · rw [Option.eq_none_iff_forall_ne_some]
      intro lister hlister
      rw [forward, hf.listed source lister hlister] at howner
      cases howner
    · obtain ⟨entry, hentry, _⟩ := hf.exists_pending hgroup hleads howner
      rw [Forwarding.pending_finish] at hentry
      cases hentry

end TargetGraph
