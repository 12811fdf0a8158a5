import Mathlib.Data.List.Dedup
import Std.Data.HashSet.Lemmas
import KeyPath.Proofs.Path.Order

/-!
# Sorted paths without their repeats

The order, the equality and the hash of paths each leave out the kind of keys.  They agree on what
is one path: once a list is sorted, paths that are the same stand next to each other, dropping the
repeats keeps the one that was given first, and as many are kept as a hash set would hold, whatever
number its hasher makes of what a path feeds to it.
-/

namespace KeyPath.Path

variable {a b p : Path} {paths : List Path}

/-- A path in a hash set, which tells paths apart by `same` and hashes what they feed to it. -/
structure Hashed (hasher : List UInt64 → UInt64) where
  path : Path

namespace Hashed

variable {hasher : List UInt64 → UInt64} {a b : Hashed hasher}

instance : BEq (Hashed hasher) := ⟨fun a b => same a.path b.path⟩

instance : Hashable (Hashed hasher) := ⟨fun a => hasher a.path.hashInput⟩

theorem beq_iff : (a == b) = true ↔ a.path.segments = b.path.segments := same_iff

instance : EquivBEq (Hashed hasher) where
  rfl := beq_iff.mpr rfl
  symm equal := beq_iff.mpr (beq_iff.mp equal).symm
  trans first second := beq_iff.mpr ((beq_iff.mp first).trans (beq_iff.mp second))

instance : LawfulHashable (Hashed hasher) where
  hash_eq _ _ equal := congrArg hasher (hashInput_eq_of_same equal)

end Hashed

section Keys

variable {α β : Type} [BEq α] [EquivBEq α] {key : α → β}

theorem mem_map_iff_contains (told : ∀ a b : α, (a == b) = true ↔ key a = key b) {list : List α}
    {k : β} : k ∈ list.map key ↔ ∃ a, key a = k ∧ list.contains a = true := by
  rw [List.mem_map]
  constructor
  · rintro ⟨a, member, rfl⟩
    exact ⟨a, rfl, List.contains_iff_exists_mem_beq.mpr ⟨a, member, BEq.rfl⟩⟩
  · rintro ⟨a, rfl, contained⟩
    obtain ⟨b, member, equal⟩ := List.contains_iff_exists_mem_beq.mp contained
    exact ⟨b, member, ((told a b).mp equal).symm⟩

/-- A hash set that tells its members apart by a key holds one for each key. -/
theorem size_ofList_of_key [Hashable α] [LawfulHashable α] [DecidableEq β]
    (told : ∀ a b : α, (a == b) = true ↔ key a = key b) (given : List α) :
    (Std.HashSet.ofList given).size = (given.map key).dedup.length := by
  have nodup : ((Std.HashSet.ofList given).toList.map key).Nodup := by
    rw [List.Nodup, List.pairwise_map]
    apply Std.HashSet.distinct_toList.imp
    intro a b apart equal
    rw [(told a b).mpr equal] at apart
    cases apart
  have members (k : β) :
      k ∈ (Std.HashSet.ofList given).toList.map key ↔ k ∈ (given.map key).dedup := by
    rw [List.mem_dedup, mem_map_iff_contains told, mem_map_iff_contains told]
    simp only [Std.HashSet.contains_toList, Std.HashSet.contains_ofList]
  rw [← Std.HashSet.length_toList, ← List.length_map (f := key)]
  exact ((List.perm_ext_iff_of_nodup nodup (List.nodup_dedup _)).mpr members).length_eq

end Keys

theorem distinctCount_eq (paths : List Path) :
    distinctCount paths = (paths.map segments).dedup.length := by
  have told (a b : List Segment) : (a == b) = true ↔ id a = id b := beq_iff_eq
  rw [distinctCount, size_ofList_of_key told, List.map_id]

theorem size_ofList_hashed (hasher : List UInt64 → UInt64) (paths : List Path) :
    (Std.HashSet.ofList (paths.map fun p => (⟨p⟩ : Hashed hasher))).size =
      (paths.map segments).dedup.length := by
  have told (a b : Hashed hasher) : (a == b) = true ↔ a.path.segments = b.path.segments :=
    Hashed.beq_iff
  rw [size_ofList_of_key told, List.map_map]
  rfl

theorem sort_perm (paths : List Path) : (sort paths).Perm paths := List.mergeSort_perm paths _

theorem isLE_or_isLE (a b : Path) : ((order a b).isLE || (order b a).isLE) = true :=
  Bool.or_eq_true_iff.mpr (order_total a b)

theorem pairwise_sort (paths : List Path) :
    (sort paths).Pairwise fun a b => (order a b).isLE = true :=
  List.pairwise_mergeSort (fun _ _ _ => Std.TransCmp.isLE_trans) isLE_or_isLE paths

/-- Paths that are the same are in order already, and a stable sort keeps the order in which they
were given. -/
theorem filter_sort (p : Path) (paths : List Path) :
    (sort paths).filter (same p) = paths.filter (same p) := by
  have ties : (paths.filter (same p)).Pairwise fun a b => (order a b).isLE = true := by
    apply List.pairwise_of_forall_mem_list
    intro a first b second
    have equal : a.segments = b.segments :=
      (same_iff.mp (List.mem_filter.mp first).2).symm.trans
        (same_iff.mp (List.mem_filter.mp second).2)
    rw [order_eq_iff.mpr (same_iff.mpr equal)]
    rfl
  have within : (paths.filter (same p)).Sublist (sort paths) :=
    List.sublist_mergeSort (fun _ _ _ => Std.TransCmp.isLE_trans) isLE_or_isLE ties
      List.filter_sublist
  have kept := within.filter (same p)
  simp only [List.filter_filter, Bool.and_self] at kept
  exact (kept.eq_of_length ((sort_perm paths).filter (same p)).length_eq.symm).symm

theorem find?_sort (p : Path) (paths : List Path) :
    (sort paths).find? (same p) = paths.find? (same p) := by
  rw [← List.head?_filter, filter_sort, List.head?_filter]

theorem segments_ne_of_lt (less : order a b = .lt) : a.segments ≠ b.segments := by
  intro equal
  rw [order_eq_iff.mpr (same_iff.mpr equal)] at less
  cases less

theorem lt_of_isLE_of_not_same (inOrder : (order a b).isLE = true) (differ : ¬ same a b = true) :
    order a b = .lt := by
  cases result : order a b with
  | lt => rfl
  | eq => exact absurd (order_eq_iff.mp result) differ
  | gt => simp [result] at inOrder

theorem dropRepeats_sublist (paths : List Path) : (dropRepeats paths).Sublist paths := by
  fun_induction dropRepeats paths with
  | case1 a b rest equal ih => exact ih.trans ((List.sublist_cons_self b rest).cons_cons a)
  | case2 a b rest differ ih => exact ih.cons_cons a
  | case3 a => exact List.Sublist.refl _
  | case4 => exact List.Sublist.refl _

/-- A dropped path follows one that is the same, so the first of them is never dropped. -/
theorem find?_dropRepeats (p : Path) (paths : List Path) :
    (dropRepeats paths).find? (same p) = paths.find? (same p) := by
  fun_induction dropRepeats paths with
  | case1 a b rest equal ih =>
    rw [ih, List.find?_cons, List.find?_cons, List.find?_cons]
    have alike : same p b = same p a := by
      rw [same, same, same_iff.mp equal]
    rw [alike]
    split <;> rfl
  | case2 a b rest differ ih => rw [List.find?_cons, ih, ← List.find?_cons]
  | case3 a => rfl
  | case4 => rfl

/-- In a sorted list the paths that are the same are neighbours, so those left differ. -/
theorem pairwise_dropRepeats (sorted : paths.Pairwise fun a b => (order a b).isLE = true) :
    (dropRepeats paths).Pairwise fun a b => order a b = .lt := by
  fun_induction dropRepeats paths with
  | case1 a b rest equal ih =>
    exact ih (sorted.sublist ((List.sublist_cons_self b rest).cons_cons a))
  | case2 a b rest differ ih =>
    obtain ⟨first, later⟩ := List.pairwise_cons.mp sorted
    have less := lt_of_isLE_of_not_same (first b List.mem_cons_self) differ
    refine List.pairwise_cons.mpr ⟨?_, ih later⟩
    intro q member
    rcases List.mem_cons.mp ((dropRepeats_sublist _).subset member) with rfl | after
    · exact less
    · exact Std.TransCmp.lt_of_lt_of_isLE less ((List.pairwise_cons.mp later).1 q after)
  | case3 a => exact List.pairwise_singleton _ a
  | case4 => exact List.Pairwise.nil

/-- In a strictly increasing list every path is the first of its segments. -/
theorem mem_iff_find?_eq_some (increasing : paths.Pairwise fun a b => order a b = .lt) :
    p ∈ paths ↔ paths.find? (same p) = some p := by
  constructor
  · intro member
    obtain ⟨before, after, rfl⟩ := List.append_of_mem member
    refine List.find?_eq_some_iff_append.mpr ⟨same_iff.mpr rfl, before, after, rfl, ?_⟩
    intro q earlier
    have less : order q p = .lt :=
      (List.pairwise_append.mp increasing).2.2 q earlier p List.mem_cons_self
    rw [Bool.not_eq_true', ← Bool.not_eq_true, same_iff]
    exact (segments_ne_of_lt less).symm
  · exact List.mem_of_find?_eq_some

theorem nodup_map_segments (increasing : paths.Pairwise fun a b => order a b = .lt) :
    (paths.map segments).Nodup := by
  rw [List.Nodup, List.pairwise_map]
  exact increasing.imp segments_ne_of_lt

theorem mem_map_segments_iff {list : List Segment} :
    list ∈ paths.map segments ↔ (paths.find? (same ⟨.pub, list⟩)).isSome = true := by
  rw [List.find?_isSome, List.mem_map]
  constructor
  · rintro ⟨p, member, rfl⟩
    exact ⟨p, member, same_iff.mpr rfl⟩
  · rintro ⟨p, member, equal⟩
    exact ⟨p, member, (same_iff.mp equal).symm⟩

theorem find?_dropRepeats_sort (p : Path) (paths : List Path) :
    (dropRepeats (sort paths)).find? (same p) = paths.find? (same p) := by
  rw [find?_dropRepeats, find?_sort]

theorem mem_map_segments_dropRepeats_sort {list : List Segment} :
    list ∈ (dropRepeats (sort paths)).map segments ↔ list ∈ paths.map segments := by
  rw [mem_map_segments_iff, mem_map_segments_iff, find?_dropRepeats_sort]

theorem length_dropRepeats_sort (paths : List Path) :
    (dropRepeats (sort paths)).length = (paths.map segments).dedup.length := by
  have nodup := nodup_map_segments (pairwise_dropRepeats (pairwise_sort paths))
  have perm : ((dropRepeats (sort paths)).map segments).Perm (paths.map segments).dedup := by
    rw [List.perm_ext_iff_of_nodup nodup (List.nodup_dedup _)]
    intro list
    rw [mem_map_segments_dropRepeats_sort, List.mem_dedup]
  rw [← List.length_map (f := segments), perm.length_eq]

/-- Sorting gives the paths in order, with those that are the same as they were given.  Dropping the
repeats then leaves a strictly increasing list with the first path of each list of segments, as many
as a set of the paths counts under any hasher. -/
theorem sorting_keeps_firsts (paths : List Path) :
    ((sort paths).Perm paths ∧
      ((sort paths).Pairwise fun a b => (order a b).isLE = true) ∧
      ∀ p, (sort paths).filter (same p) = paths.filter (same p)) ∧
    ((dropRepeats (sort paths)).Pairwise fun a b => order a b = .lt) ∧
    (((dropRepeats (sort paths)).map segments).Nodup ∧
      ∀ list, list ∈ (dropRepeats (sort paths)).map segments ↔ list ∈ paths.map segments) ∧
    ((dropRepeats (sort paths)).length = distinctCount paths ∧
      ∀ hasher, (dropRepeats (sort paths)).length =
        (Std.HashSet.ofList (paths.map fun p => (⟨p⟩ : Hashed hasher))).size) ∧
    ∀ p, p ∈ dropRepeats (sort paths) ↔ paths.find? (same p) = some p := by
  have increasing := pairwise_dropRepeats (pairwise_sort paths)
  refine ⟨⟨sort_perm paths, pairwise_sort paths, fun p => filter_sort p paths⟩, increasing,
    ⟨nodup_map_segments increasing, fun _ => mem_map_segments_dropRepeats_sort⟩, ⟨?_, ?_⟩, ?_⟩
  · rw [length_dropRepeats_sort, distinctCount_eq]
  · intro hasher
    rw [length_dropRepeats_sort, size_ofList_hashed]
  · intro p
    rw [mem_iff_find?_eq_some increasing, find?_dropRepeats_sort]

example : dropRepeats (sort [⟨.pub, [⟨44⟩]⟩, ⟨.priv, []⟩, ⟨.priv, [⟨44⟩]⟩]) =
    [⟨.priv, []⟩, ⟨.pub, [⟨44⟩]⟩] := by
  cbv

end KeyPath.Path
