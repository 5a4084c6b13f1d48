import Mathlib.Algebra.BigOperators.Group.List.Basic
import Mathlib.Algebra.GroupWithZero.Nat
import Mathlib.Data.List.Perm.Basic
import Mathlib.Order.Defs.Unbundled
import IsaCensus.Report

/-! Counts by name. Adding to a usage keeps the names in order and each of them once, so a usage is
known from the total of every name that was added, whatever the order of the additions. Sorted by
count, each entry has one place: the order of counts and names is strict and total. -/

namespace IsaCensus.FeatureUsage

/-- What some entries, which may repeat a name, come to for the name. -/
def total (entries : List (String × Nat)) (name : String) : Nat :=
  ((entries.filter (·.1 = name)).map Prod.snd).sum

/-- Each name stands behind all the smaller ones. -/
def Ordered (usage : FeatureUsage) : Prop := usage.Pairwise fun a b => a.1 < b.1

/-- The usage has the names of the entries and no others, with the same totals. -/
structure Sums (entries : List (String × Nat)) (usage : FeatureUsage) : Prop where
  ordered : usage.Ordered
  names : ∀ name, name ∈ usage.map Prod.fst ↔ name ∈ entries.map Prod.fst
  totals : ∀ name, total usage name = total entries name

def addAll (entries : List (String × Nat)) (usage : FeatureUsage) : FeatureUsage :=
  entries.foldl (fun usage (name, n) => usage.add name n) usage

variable {usage : FeatureUsage} {entries : List (String × Nat)}

theorem total_cons (entry : String × Nat) (entries : List (String × Nat)) (name : String) :
    total (entry :: entries) name = (if entry.1 = name then entry.2 else 0) + total entries name := by
  rw [total, total, List.filter_cons]
  by_cases same : entry.1 = name
  · rw [if_pos (decide_eq_true same), if_pos same, List.map_cons, List.sum_cons]
  · rw [if_neg (mt of_decide_eq_true same), if_neg same, Nat.zero_add]

theorem total_append (first last : List (String × Nat)) (name : String) :
    total (first ++ last) name = total first name + total last name := by
  rw [total, List.filter_append, List.map_append, List.sum_append, ← total, ← total]

theorem total_perm {first last : List (String × Nat)} (shuffled : first.Perm last) (name : String) :
    total first name = total last name :=
  ((shuffled.filter _).map _).sum_eq

theorem total_unnamed {name : String} (unnamed : name ∉ entries.map Prod.fst) : total entries name = 0 := by
  have none : entries.filter (·.1 = name) = [] := by
    refine List.filter_eq_nil_iff.mpr fun entry listed => ?_
    exact fun same => unnamed (of_decide_eq_true same ▸ List.mem_map_of_mem listed)
  rw [total, none]
  rfl

theorem lt_of_other {name other : String} (different : name ≠ other) (behind : ¬name < other) : other < name := by
  refine Decidable.byContradiction fun ahead => different ?_
  exact String.le_antisymm (String.not_lt.mp ahead) (String.not_lt.mp behind)

theorem names_add (usage : FeatureUsage) (name : String) (n : Nat) (other : String) :
    other ∈ (usage.add name n).map Prod.fst ↔ other = name ∨ other ∈ usage.map Prod.fst := by
  induction usage with
  | nil => simp [add]
  | cons entry rest ih =>
    rw [add]
    split
    next same => simp [same]
    next =>
      split
      next => simp
      next => simp only [List.map_cons, List.mem_cons, ih, or_left_comm]

theorem total_add (usage : FeatureUsage) (name : String) (n : Nat) (other : String) :
    total (usage.add name n) other = total usage other + if name = other then n else 0 := by
  induction usage with
  | nil => rw [add, total_cons, Nat.add_comm]
  | cons entry rest ih =>
    rw [add]
    split
    next same =>
      rw [total_cons, total_cons, same]
      split <;> omega
    next =>
      split
      next =>
        rw [total_cons, Nat.add_comm]
      next => rw [total_cons, total_cons, ih, Nat.add_assoc]

theorem Ordered.add (ordered : usage.Ordered) (name : String) (n : Nat) : (usage.add name n).Ordered := by
  induction usage with
  | nil => exact List.pairwise_singleton _ _
  | cons entry rest ih =>
    obtain ⟨behind, ordered⟩ := List.pairwise_cons.mp ordered
    rw [FeatureUsage.add]
    split
    next => exact List.pairwise_cons.mpr ⟨behind, ordered⟩
    next different =>
      split
      next ahead =>
        refine List.pairwise_cons.mpr ⟨fun later listed => ?_, List.pairwise_cons.mpr ⟨behind, ordered⟩⟩
        rcases List.mem_cons.mp listed with rfl | listed
        · exact ahead
        · exact String.lt_trans ahead (behind later listed)
      next unordered =>
        refine List.pairwise_cons.mpr ⟨fun later listed => ?_, ih ordered⟩
        rcases (names_add rest name n later.1).mp (List.mem_map_of_mem listed) with same | found
        · exact same ▸ lt_of_other different unordered
        · obtain ⟨kept, listed, same⟩ := List.mem_map.mp found
          exact same ▸ behind kept listed

/-- In a usage each name has one count, which is its total. -/
theorem Ordered.listed (ordered : usage.Ordered) (name : String) (n : Nat) :
    (name, n) ∈ usage ↔ name ∈ usage.map Prod.fst ∧ n = total usage name := by
  induction usage with
  | nil => simp
  | cons entry rest ih =>
    obtain ⟨other, m⟩ := entry
    obtain ⟨behind, ordered⟩ := List.pairwise_cons.mp ordered
    rw [List.mem_cons, List.map_cons, List.mem_cons, total_cons, ih ordered, Prod.mk.injEq]
    by_cases same : other = name
    · have unnamed : name ∉ rest.map Prod.fst := by
        intro found
        obtain ⟨later, listed, again⟩ := List.mem_map.mp found
        exact String.lt_irrefl _ (same ▸ again ▸ behind later listed)
      simp [same, unnamed, total_unnamed unnamed]
    · simp [same, Ne.symm same]

theorem Ordered.distinct (ordered : usage.Ordered) : usage.Nodup := by
  refine List.Pairwise.imp ?_ ordered
  rintro a b less rfl
  exact String.lt_irrefl _ less

theorem Ordered.sums (ordered : usage.Ordered) : Sums usage usage :=
  ⟨ordered, fun _ => Iff.rfl, fun _ => rfl⟩

namespace Sums

theorem listed (sums : Sums entries usage) (name : String) (n : Nat) :
    (name, n) ∈ usage ↔ name ∈ entries.map Prod.fst ∧ n = total entries name := by
  rw [sums.ordered.listed, sums.names, sums.totals]

theorem add (sums : Sums entries usage) (name : String) (n : Nat) :
    Sums (entries ++ [(name, n)]) (usage.add name n) := by
  refine ⟨sums.ordered.add name n, fun other => ?_, fun other => ?_⟩
  · rw [names_add, sums.names, List.map_append, List.mem_append, or_comm]
    simp
  · rw [total_add, sums.totals, total_append, total_cons]
    rfl

theorem addAll (sums : Sums entries usage) (more : List (String × Nat)) :
    Sums (entries ++ more) (usage.addAll more) := by
  induction more generalizing entries usage with
  | nil => rwa [List.append_nil]
  | cons entry rest ih =>
    rw [List.append_cons]
    exact ih (sums.add entry.1 entry.2)

/-- Two usages with the same totals under the same names are the same. -/
theorem unique {first last : FeatureUsage} {others : List (String × Nat)} (sums : Sums entries first)
    (again : Sums others last) (shuffled : entries.Perm others) : first = last := by
  refine List.Perm.eq_of_pairwise (fun a b _ _ less more => ?_) sums.ordered again.ordered ?_
  · exact absurd (String.lt_trans less more) (String.lt_irrefl _)
  · refine (List.perm_ext_iff_of_nodup sums.ordered.distinct again.ordered.distinct).mpr fun entry => ?_
    rw [sums.listed, again.listed, total_perm shuffled, (shuffled.map Prod.fst).mem_iff]

end Sums

/-! The order by count. -/

/-- The entry has the larger count, or the same count and the smaller name. -/
def Ahead (a b : String × Nat) : Prop := b.2 < a.2 ∨ a.2 = b.2 ∧ a.1 < b.1

instance : IsStrictTotalOrder (String × Nat) Ahead where
  irrefl a := by
    rintro (less | ⟨_, less⟩)
    · exact Nat.lt_irrefl _ less
    · exact String.lt_irrefl _ less
  trans a b c := by
    rintro (more | ⟨same, less⟩) (again | ⟨equal, smaller⟩)
    · exact .inl (Nat.lt_trans again more)
    · exact .inl (equal ▸ more)
    · exact .inl (same ▸ again)
    · exact .inr ⟨same.trans equal, String.lt_trans less smaller⟩
  trichotomous a b := by
    intro behind ahead
    have same : a.2 = b.2 := Nat.le_antisymm
      (Nat.not_lt.mp fun more => behind (.inl more)) (Nat.not_lt.mp fun more => ahead (.inl more))
    refine Prod.ext (String.le_antisymm ?_ ?_) same
    · exact String.not_lt.mp fun less => ahead (.inr ⟨same.symm, less⟩)
    · exact String.not_lt.mp fun less => behind (.inr ⟨same, less⟩)

theorem before_iff (a b : String × Nat) : before a b = true ↔ a = b ∨ Ahead a b := by
  rw [before, Bool.or_eq_true, Bool.and_eq_true, decide_eq_true_iff, beq_iff_eq, decide_eq_true_iff, Ahead]
  constructor
  · rintro (more | ⟨same, atMost⟩)
    · exact .inr (.inl more)
    · by_cases less : a.1 < b.1
      · exact .inr (.inr ⟨same, less⟩)
      · exact .inl (Prod.ext (String.le_antisymm atMost (String.not_lt.mp less)) same)
  · rintro (rfl | more | ⟨same, less⟩)
    · exact .inr ⟨rfl, String.le_refl _⟩
    · exact .inl more
    · exact .inr ⟨same, String.not_lt.mp (String.lt_asymm less)⟩

theorem before_trans (a b c : String × Nat) (first : before a b = true) (second : before b c = true) :
    before a c = true := by
  rw [before_iff] at first second ⊢
  rcases first with rfl | first
  · exact second
  · rcases second with rfl | second
    · exact .inr first
    · exact .inr (trans_of Ahead first second)

theorem before_total (a b : String × Nat) : (before a b || before b a) = true := by
  rw [Bool.or_eq_true, before_iff, before_iff]
  rcases trichotomous_of Ahead a b with ahead | same | behind
  · exact .inl (.inr ahead)
  · exact .inl (.inl same)
  · exact .inr (.inr behind)

/-- The entries of a usage in an order in which each stands before exactly those that it is ahead of. -/
structure Ranked (usage ranked : List (String × Nat)) : Prop where
  perm : ranked.Perm usage
  order : ∀ {i j : Nat} {a b : String × Nat}, ranked[i]? = some a → ranked[j]? = some b → (i < j ↔ Ahead a b)

theorem byCount_ranked {usage : FeatureUsage} (distinct : usage.Nodup) : Ranked usage usage.byCount := by
  have perm : usage.byCount.Perm usage := List.mergeSort_perm usage before
  have sorted : usage.byCount.Pairwise fun a b => before a b = true :=
    List.pairwise_mergeSort before_trans before_total usage
  have strict : usage.byCount.Pairwise Ahead := by
    refine (sorted.and (perm.nodup_iff.mpr distinct)).imp fun {a b} ⟨ahead, different⟩ => ?_
    exact ((before_iff a b).mp ahead).resolve_left different
  have forward {i j : Nat} {a b : String × Nat} (first : usage.byCount[i]? = some a)
      (last : usage.byCount[j]? = some b) (less : i < j) : Ahead a b := by
    obtain ⟨inside, rfl⟩ := List.getElem?_eq_some_iff.mp first
    obtain ⟨within, rfl⟩ := List.getElem?_eq_some_iff.mp last
    exact List.pairwise_iff_getElem.mp strict i j inside within less
  refine ⟨perm, fun {i j a b} first last => ⟨forward first last, fun ahead => ?_⟩⟩
  rcases Nat.lt_trichotomy i j with less | rfl | more
  · exact less
  · cases first.symm.trans last
    exact absurd ahead (irrefl a)
  · exact absurd (trans_of Ahead ahead (forward last first more)) (irrefl a)

end IsaCensus.FeatureUsage
