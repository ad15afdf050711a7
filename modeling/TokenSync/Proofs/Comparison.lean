import TokenSync.TokenRecord

/-!
# Comparing merged tokens

Two records of one token and their merge are compared attribute by attribute. The merge differs from
the full record where the listing alone tells something, and from the listing where the full record
tells something else. Not differing is an equivalence relation, and merging respects it.
-/
namespace TokenSync

/-! ## Managed attributes one by one -/

namespace Managed

/-- The places of the managed attributes. -/
inductive Place where
  | description
  | isLocal
  | policies
  | roles
  | serviceIdentities
  | nodeIdentities
deriving DecidableEq, Repr

/-- What stands in a place. -/
def Place.Content : Place → Type
  | .description => String
  | .isLocal => Bool
  | .policies | .roles => List Link
  | .serviceIdentities => List ServiceIdentity
  | .nodeIdentities => List NodeIdentity

/-- What stands in a place, if anything is told of it. -/
def told (managed : Managed) : (place : Place) → Option place.Content
  | .description => managed.description
  | .isLocal => managed.isLocal
  | .policies => managed.policies
  | .roles => managed.roles
  | .serviceIdentities => managed.serviceIdentities
  | .nodeIdentities => managed.nodeIdentities

/-- Nothing else is managed. -/
theorem eq_iff_told_eq {managed other : Managed} :
    managed = other ↔ ∀ place, managed.told place = other.told place := by
  constructor
  · intro h place
    rw [h]
  · intro h
    have hdescription : managed.description = other.description := h .description
    have hlocal : managed.isLocal = other.isLocal := h .isLocal
    have hpolicies : managed.policies = other.policies := h .policies
    have hroles : managed.roles = other.roles := h .roles
    have hservices : managed.serviceIdentities = other.serviceIdentities := h .serviceIdentities
    have hnodes : managed.nodeIdentities = other.nodeIdentities := h .nodeIdentities
    cases managed
    cases other
    simp_all only

end Managed

namespace TokenRecord

open Managed

variable {record other third listed full : TokenRecord}

/-! ## Differing and merging -/

theorem differsFrom_eq_false_iff_told :
    record.differsFrom other = false ↔
      ∀ place, record.told place = other.told place :=
  differsFrom_eq_false_iff.trans eq_iff_told_eq

theorem differsFrom_iff_exists_told :
    record.differsFrom other = true ↔
      ∃ place, record.told place ≠ other.told place := by
  rw [← Bool.not_eq_false, differsFrom_eq_false_iff_told, Classical.not_forall]

theorem told_merge (listed full : TokenRecord) (place : Place) :
    (merge listed full).told place = (full.told place).or (listed.told place) := by
  cases place <;> rfl

/-- The merge differs from the full record by what the listing alone tells. -/
theorem merge_differsFrom_full_iff :
    (merge listed full).differsFrom full = true ↔
      ∃ place, listed.told place ≠ none ∧ full.told place = none := by
  rw [differsFrom_iff_exists_told]
  apply exists_congr
  intro place
  rw [told_merge]
  cases full.told place <;> simp

/-- The merge differs from the listing by what the full record tells differently. -/
theorem merge_differsFrom_listed_iff :
    (merge listed full).differsFrom listed = true ↔
      ∃ place, full.told place ≠ none ∧ full.told place ≠ listed.told place := by
  rw [differsFrom_iff_exists_told]
  apply exists_congr
  intro place
  rw [told_merge]
  cases full.told place <;> simp

/-- Records that do not differ have a merge that differs from neither. -/
theorem merge_differsFrom_of_alike (h : listed.differsFrom full = false) :
    (merge listed full).differsFrom listed = false ∧
      (merge listed full).differsFrom full = false := by
  rw [differsFrom_eq_false_iff_told] at h
  constructor
  · apply differsFrom_eq_false_iff_told.2
    intro place
    rw [told_merge, ← h place, Option.or_self]
  · apply differsFrom_eq_false_iff_told.2
    intro place
    rw [told_merge, h place, Option.or_self]

theorem equivalence_alike :
    Equivalence fun record other : TokenRecord => record.differsFrom other = false where
  refl _ := differsFrom_eq_false_iff.2 rfl
  symm h := differsFrom_eq_false_iff.2 (differsFrom_eq_false_iff.1 h).symm
  trans h h' := by
    rw [differsFrom_eq_false_iff] at h h' ⊢
    exact h.trans h'

/-- Merging respects records that do not differ. -/
theorem merge_alike {listed' full' : TokenRecord} (hlisted : listed'.differsFrom listed = false)
    (hfull : full'.differsFrom full = false) :
    (merge listed' full').differsFrom (merge listed full) = false := by
  rw [differsFrom_eq_false_iff_told] at hlisted hfull ⊢
  intro place
  rw [told_merge, told_merge, hlisted, hfull]

/-- **What a merge differs by.** A merge differs from the full record if and only if the listing
tells an attribute that the full record does not, and from the listing if and only if the full
record tells an attribute differently. If the two do not differ, the merge differs from neither. Not
differing is an equivalence relation that depends on the managed attributes alone, and merging
respects it. -/
theorem merge_differs_by_attributes (listed full : TokenRecord) :
    ((merge listed full).differsFrom full = true ↔
      ∃ place, listed.told place ≠ none ∧ full.told place = none) ∧
    ((merge listed full).differsFrom listed = true ↔
      ∃ place, full.told place ≠ none ∧ full.told place ≠ listed.told place) ∧
    (listed.differsFrom full = false →
      (merge listed full).differsFrom listed = false ∧
        (merge listed full).differsFrom full = false) ∧
    (Equivalence fun record other : TokenRecord => record.differsFrom other = false) ∧
    (∀ accessor accessor' secret secret' extra extra',
      { listed with accessor := accessor, secret := secret, extra := extra }.differsFrom
          { full with accessor := accessor', secret := secret', extra := extra' } =
        listed.differsFrom full) ∧
    ∀ listed' full', listed'.differsFrom listed = false → full'.differsFrom full = false →
      (merge listed' full').differsFrom (merge listed full) = false := by
  refine ⟨merge_differsFrom_full_iff, merge_differsFrom_listed_iff, merge_differsFrom_of_alike,
    equivalence_alike, ?_, ?_⟩
  · intro accessor accessor' secret secret' extra extra'
    rfl
  · intro listed' full' hlisted hfull
    exact merge_alike hlisted hfull

example :
    let listed : TokenRecord := { empty with policies := some [], isLocal := some true }
    let full : TokenRecord := { empty with isLocal := some false }
    (merge listed full).differsFrom full = true ∧ (merge listed full).differsFrom listed = true ∧
      (merge full listed).differsFrom listed = false := by
  decide

end TokenRecord

end TokenSync
