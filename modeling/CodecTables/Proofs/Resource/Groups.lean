import CodecTables.Proofs.Files.Lookup
import CodecTables.Resource.Entity
import Mathlib.Data.List.Induction

/-!
# Bundles by vendor

Grouping bundles leaves every bundle in its place among those of its vendor. The vendors come in the
order of their first bundles (`group_eq`), and no bundle is lost or added (`flatMap_group_perm`). So
the groups are a stable partition of the bundles, and grouping them once more changes nothing
(`group_partitions`).
-/

namespace CodecTables.Resource.VendorGroup

/-- The bundles of one vendor. -/
def part (bundles : List CodecBundle) (vendor : Vendor) : VendorGroup :=
  ⟨vendor, bundles.filter fun bundle => bundle.info.vendor = vendor⟩

/-- The part of a vendor does not change with a bundle of another vendor. -/
theorem part_concat_of_ne (bundles : List CodecBundle) {bundle : CodecBundle} {vendor : Vendor}
    (other : bundle.info.vendor ≠ vendor) :
    part (bundles ++ [bundle]) vendor = part bundles vendor := by
  simp [part, other]

/-- The part of a vendor grows at its end by a bundle of the vendor. -/
theorem part_concat_self (bundles : List CodecBundle) (bundle : CodecBundle) :
    part (bundles ++ [bundle]) bundle.info.vendor =
      ⟨bundle.info.vendor, (part bundles bundle.info.vendor).bundles ++ [bundle]⟩ := by
  simp [part]

theorem map_part_concat (bundles : List CodecBundle) {bundle : CodecBundle} {vendors : List Vendor}
    (others : bundle.info.vendor ∉ vendors) :
    vendors.map (part (bundles ++ [bundle])) = vendors.map (part bundles) := by
  refine List.map_congr_left fun vendor member => part_concat_of_ne bundles ?_
  rintro rfl
  exact others member

/-- A bundle is added to the part of its vendor, if there is one. -/
theorem add_map_part (bundles : List CodecBundle) (bundle : CodecBundle) {vendors : List Vendor}
    (distinct : vendors.Nodup) (known : bundle.info.vendor ∈ vendors) :
    add (vendors.map (part bundles)) bundle = vendors.map (part (bundles ++ [bundle])) := by
  induction vendors with
  | nil => exact absurd known List.not_mem_nil
  | cons vendor rest ih =>
    obtain ⟨apart, distinct⟩ := List.nodup_cons.mp distinct
    rw [List.map_cons, List.map_cons, add]
    change (if vendor = bundle.info.vendor then _ else _) = _
    by_cases same : vendor = bundle.info.vendor
    · subst same
      rw [if_pos rfl, part_concat_self, map_part_concat bundles apart]
      rfl
    · rw [if_neg same, ih distinct ((List.mem_cons.mp known).resolve_left (Ne.symm same)),
        part_concat_of_ne bundles (Ne.symm same)]

/-- A bundle of another vendor makes a new group. -/
theorem add_of_new {groups : List VendorGroup} {bundle : CodecBundle}
    (new : ∀ group ∈ groups, group.vendor ≠ bundle.info.vendor) :
    add groups bundle = groups ++ [⟨bundle.info.vendor, [bundle]⟩] := by
  induction groups with
  | nil => rfl
  | cons group rest ih =>
    rw [add, if_neg (new group List.mem_cons_self),
      ih fun group member => new group (List.mem_cons_of_mem _ member), List.cons_append]

/-- The vendors of bundles, in the order of their first bundles. -/
def vendorsOf (bundles : List CodecBundle) : List Vendor :=
  (bundles.map fun bundle => bundle.info.vendor).eraseDups

/-- The vendors of bundles are those that one of them is of. -/
theorem mem_vendorsOf {bundles : List CodecBundle} {vendor : Vendor} :
    vendor ∈ vendorsOf bundles ↔ ∃ bundle ∈ bundles, bundle.info.vendor = vendor := by
  rw [vendorsOf, List.mem_eraseDups, List.mem_map]

/-- A bundle adds its vendor at the end if the vendor is new. -/
theorem vendorsOf_concat (bundles : List CodecBundle) (bundle : CodecBundle) :
    vendorsOf (bundles ++ [bundle]) =
      if bundle.info.vendor ∈ vendorsOf bundles then vendorsOf bundles
      else vendorsOf bundles ++ [bundle.info.vendor] := by
  rw [vendorsOf, List.map_append, List.eraseDups_append, ← vendorsOf, List.map_singleton,
    List.removeAll, List.filter_cons, List.filter_nil, List.elem_eq_mem]
  by_cases known : bundle.info.vendor ∈ bundles.map fun bundle => bundle.info.vendor
  · have listed : bundle.info.vendor ∈ vendorsOf bundles := List.mem_eraseDups.mpr known
    rw [if_pos listed, decide_eq_true known]
    exact List.append_nil _
  · have new : bundle.info.vendor ∉ vendorsOf bundles :=
      fun member => known (List.mem_eraseDups.mp member)
    rw [if_neg new, decide_eq_false known]
    rfl

/-- There is one group for each vendor, in the order of the vendors' first bundles, and it holds the
bundles of the vendor in their order. -/
theorem group_eq (bundles : List CodecBundle) :
    group bundles = (vendorsOf bundles).map (part bundles) := by
  -- Grouping takes the bundles from the left, so the last one is added to finished groups.
  induction bundles using List.reverseRecOn with
  | nil => rfl
  | append_singleton bundles bundle ih =>
    have grown : group (bundles ++ [bundle]) = add (group bundles) bundle := by
      rw [group, List.foldl_append]
      rfl
    rw [grown, ih, vendorsOf_concat]
    by_cases known : bundle.info.vendor ∈ vendorsOf bundles
    · rw [if_pos known]
      exact add_map_part bundles bundle (Files.nodup_eraseDups _) known
    · have none : (part bundles bundle.info.vendor).bundles = [] := by
        refine List.filter_eq_nil_iff.mpr fun other member same => known ?_
        exact mem_vendorsOf.mpr ⟨other, member, of_decide_eq_true same⟩
      rw [if_neg known, List.map_append, map_part_concat bundles known, List.map_singleton,
        part_concat_self, none, List.nil_append]
      refine add_of_new fun group member => ?_
      obtain ⟨vendor, listed, rfl⟩ := List.mem_map.mp member
      rintro rfl
      exact known listed

/-- To add a bundle to the groups adds it to their bundles, and nothing else. -/
theorem flatMap_add_perm (groups : List VendorGroup) (bundle : CodecBundle) :
    ((add groups bundle).flatMap VendorGroup.bundles).Perm
      (groups.flatMap VendorGroup.bundles ++ [bundle]) := by
  induction groups with
  | nil => exact .refl _
  | cons group rest ih =>
    rw [add]
    split
    · rw [List.flatMap_cons, List.flatMap_cons, List.append_assoc, List.append_assoc]
      exact .append_left _ List.perm_append_comm
    · rw [List.flatMap_cons, List.flatMap_cons, List.append_assoc]
      exact .append_left _ ih

/-- No bundle is lost or added. -/
theorem flatMap_group_perm (bundles : List CodecBundle) :
    ((group bundles).flatMap VendorGroup.bundles).Perm bundles := by
  induction bundles using List.reverseRecOn with
  | nil => exact .refl _
  | append_singleton bundles bundle ih =>
    rw [group, List.foldl_append]
    exact (flatMap_add_perm (group bundles) bundle).trans (.append_right _ ih)

/-! ### Groups as a partition -/

/-- The place of the first bundle of a vendor. -/
def firstPlace (bundles : List CodecBundle) (vendor : Vendor) : Nat :=
  bundles.findIdx fun bundle => bundle.info.vendor = vendor

theorem firstPlace_lt {bundles : List CodecBundle} {vendor : Vendor}
    (known : vendor ∈ vendorsOf bundles) : firstPlace bundles vendor < bundles.length := by
  obtain ⟨bundle, member, same⟩ := mem_vendorsOf.mp known
  exact List.findIdx_lt_length_of_exists ⟨bundle, member, decide_eq_true same⟩

theorem firstPlace_concat_of_known {bundles : List CodecBundle} {vendor : Vendor}
    (known : vendor ∈ vendorsOf bundles) (bundle : CodecBundle) :
    firstPlace (bundles ++ [bundle]) vendor = firstPlace bundles vendor := by
  have inside := firstPlace_lt known
  unfold firstPlace at inside ⊢
  rw [List.findIdx_append, if_pos inside]

/-- A new vendor has its first bundle behind all others. -/
theorem firstPlace_concat_of_new {bundles : List CodecBundle} {bundle : CodecBundle}
    (new : bundle.info.vendor ∉ vendorsOf bundles) :
    firstPlace (bundles ++ [bundle]) bundle.info.vendor = bundles.length := by
  have none : bundles.findIdx (fun other => other.info.vendor = bundle.info.vendor) =
      bundles.length := by
    refine List.findIdx_eq_length.mpr fun other member => decide_eq_false fun same => new ?_
    exact mem_vendorsOf.mpr ⟨other, member, same⟩
  unfold firstPlace
  rw [List.findIdx_append, none, if_neg (Nat.lt_irrefl _), List.findIdx_singleton]
  simp

/-- Vendors stand in the order of their first bundles. -/
theorem pairwise_vendorsOf (bundles : List CodecBundle) :
    (vendorsOf bundles).Pairwise fun vendor later =>
      firstPlace bundles vendor < firstPlace bundles later := by
  induction bundles using List.reverseRecOn with
  | nil => exact List.Pairwise.nil
  | append_singleton bundles bundle ih =>
    have grown : (vendorsOf bundles).Pairwise fun vendor later =>
        firstPlace (bundles ++ [bundle]) vendor < firstPlace (bundles ++ [bundle]) later := by
      refine ih.imp_of_mem fun {vendor later} known known' ordered => ?_
      rwa [firstPlace_concat_of_known known, firstPlace_concat_of_known known']
    rw [vendorsOf_concat]
    by_cases known : bundle.info.vendor ∈ vendorsOf bundles
    · rwa [if_pos known]
    · rw [if_neg known]
      refine List.pairwise_append.mpr ⟨grown, List.pairwise_singleton _ _, ?_⟩
      intro vendor listed last member
      rw [List.mem_singleton.mp member, firstPlace_concat_of_known listed,
        firstPlace_concat_of_new known]
      exact firstPlace_lt listed

/-- The groups are those of the bundles: one for each vendor among them, with the bundles of the
vendor in their order. -/
structure StablePartition (bundles : List CodecBundle) (groups : List VendorGroup) : Prop where
  distinct : (groups.map VendorGroup.vendor).Nodup
  /-- The vendors come in the order of their first bundles. -/
  ordered : (groups.map VendorGroup.vendor).Pairwise fun vendor later =>
    firstPlace bundles vendor < firstPlace bundles later
  nonempty : ∀ group ∈ groups, group.bundles ≠ []
  covers : ∀ bundle ∈ bundles, bundle.info.vendor ∈ groups.map VendorGroup.vendor
  members : ∀ group ∈ groups,
    group.bundles = bundles.filter fun bundle => bundle.info.vendor = group.vendor
  complete : (groups.flatMap VendorGroup.bundles).Perm bundles

theorem map_vendor_group (bundles : List CodecBundle) :
    (group bundles).map VendorGroup.vendor = vendorsOf bundles := by
  rw [group_eq, List.map_map]
  exact List.map_id' _

/-- The groups are a stable partition of the bundles. -/
theorem stablePartition_group (bundles : List CodecBundle) :
    StablePartition bundles (group bundles) := by
  refine ⟨?_, ?_, fun group member => ?_, fun bundle member => ?_, fun group member => ?_,
    flatMap_group_perm bundles⟩
  · rw [map_vendor_group]
    exact Files.nodup_eraseDups _
  · rw [map_vendor_group]
    exact pairwise_vendorsOf bundles
  · rw [group_eq] at member
    obtain ⟨vendor, listed, rfl⟩ := List.mem_map.mp member
    obtain ⟨bundle, inside, same⟩ := mem_vendorsOf.mp listed
    exact List.ne_nil_of_mem (List.mem_filter.mpr ⟨inside, decide_eq_true same⟩)
  · rw [map_vendor_group]
    exact mem_vendorsOf.mpr ⟨bundle, member, rfl⟩
  · rw [group_eq] at member
    obtain ⟨vendor, _, rfl⟩ := List.mem_map.mp member
    rfl

/-! ### Grouping once more -/

/-- A bundle of the vendor of the last group is added to it. -/
theorem add_last {groups : List VendorGroup} {bundle : CodecBundle}
    (new : ∀ group ∈ groups, group.vendor ≠ bundle.info.vendor) (front : List CodecBundle) :
    add (groups ++ [⟨bundle.info.vendor, front⟩]) bundle =
      groups ++ [⟨bundle.info.vendor, front ++ [bundle]⟩] := by
  induction groups with
  | nil => exact if_pos rfl
  | cons group rest ih =>
    rw [List.cons_append, add, if_neg (new group List.mem_cons_self),
      ih fun group member => new group (List.mem_cons_of_mem _ member), List.cons_append]

/-- Bundles of the vendor of the last group go to the end of this group. -/
theorem foldl_add_last {groups : List VendorGroup} {vendor : Vendor}
    (new : ∀ group ∈ groups, group.vendor ≠ vendor) (front : List CodecBundle)
    {bundles : List CodecBundle} (same : ∀ bundle ∈ bundles, bundle.info.vendor = vendor) :
    bundles.foldl add (groups ++ [⟨vendor, front⟩]) = groups ++ [⟨vendor, front ++ bundles⟩] := by
  induction bundles generalizing front with
  | nil => rw [List.append_nil, List.foldl_nil]
  | cons bundle rest ih =>
    obtain rfl := same bundle List.mem_cons_self
    have later := ih (front ++ [bundle]) fun other member =>
      same other (List.mem_cons_of_mem _ member)
    rw [List.foldl_cons, add_last new, later, List.append_assoc, List.singleton_append]

/-- The bundles of a new vendor make a group of their own. -/
theorem foldl_add_new {groups : List VendorGroup} {group : VendorGroup}
    (new : ∀ other ∈ groups, other.vendor ≠ group.vendor) (nonempty : group.bundles ≠ [])
    (same : ∀ bundle ∈ group.bundles, bundle.info.vendor = group.vendor) :
    group.bundles.foldl add groups = groups ++ [group] := by
  obtain ⟨vendor, bundles⟩ := group
  obtain ⟨bundle, rest, rfl⟩ := List.exists_cons_of_ne_nil nonempty
  obtain rfl : bundle.info.vendor = vendor := same bundle List.mem_cons_self
  have later := foldl_add_last new [bundle] fun other member =>
    same other (List.mem_cons_of_mem _ member)
  rw [List.foldl_cons, add_of_new new, later, List.singleton_append]

/-- The bundles of groups of distinct vendors are put into the same groups again. -/
theorem foldl_add_flatMap {before groups : List VendorGroup}
    (distinct : ((before ++ groups).map VendorGroup.vendor).Nodup)
    (nonempty : ∀ group ∈ groups, group.bundles ≠ [])
    (members : ∀ group ∈ groups, ∀ bundle ∈ group.bundles, bundle.info.vendor = group.vendor) :
    (groups.flatMap VendorGroup.bundles).foldl add before = before ++ groups := by
  induction groups generalizing before with
  | nil => rw [List.append_nil, List.flatMap_nil, List.foldl_nil]
  | cons group rest ih =>
    have new : ∀ other ∈ before, other.vendor ≠ group.vendor := by
      rw [List.map_append, List.map_cons] at distinct
      intro other member
      exact (List.nodup_append.mp distinct).2.2 other.vendor (List.mem_map_of_mem member)
        group.vendor List.mem_cons_self
    have whole : group.bundles.foldl add before = before ++ [group] :=
      foldl_add_new new (nonempty group List.mem_cons_self) (members group List.mem_cons_self)
    have grown : before ++ group :: rest = before ++ [group] ++ rest := by
      rw [List.append_assoc, List.singleton_append]
    rw [grown] at distinct ⊢
    rw [List.flatMap_cons, List.foldl_append, whole]
    exact ih distinct (fun other member => nonempty other (List.mem_cons_of_mem _ member))
      fun other member => members other (List.mem_cons_of_mem _ member)

/-- Groups of distinct vendors, each of which has bundles of its own vendor, are what their bundles
are grouped into. -/
theorem group_flatMap {groups : List VendorGroup}
    (distinct : (groups.map VendorGroup.vendor).Nodup)
    (nonempty : ∀ group ∈ groups, group.bundles ≠ [])
    (members : ∀ group ∈ groups, ∀ bundle ∈ group.bundles, bundle.info.vendor = group.vendor) :
    group (groups.flatMap VendorGroup.bundles) = groups :=
  @foldl_add_flatMap [] groups distinct nonempty members

/-- Grouping is a stable partition, and the groups put together are grouped in the same way. -/
theorem group_partitions (bundles : List CodecBundle) :
    StablePartition bundles (group bundles) ∧
      group ((group bundles).flatMap VendorGroup.bundles) = group bundles := by
  have parts := stablePartition_group bundles
  refine ⟨parts, group_flatMap parts.distinct parts.nonempty fun group member bundle inside => ?_⟩
  rw [parts.members group member] at inside
  exact of_decide_eq_true (List.mem_filter.mp inside).2

end CodecTables.Resource.VendorGroup
