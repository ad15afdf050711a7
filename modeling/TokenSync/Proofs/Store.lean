import Mathlib.Logic.Function.Basic
import TokenSync.Proofs.Directory
import TokenSync.Proofs.Record

/-!
# Stores of tokens

What an agent keeps: under each identifier one document at most, which is read as a record with this
identifier. A listing shows a part of every stored document. Merged with the full record, the part
tells nothing new of the attributes that a description determines.
-/
namespace TokenSync

open Json

/-- The document of a token that is stored under an identifier. -/
structure StoredToken (id : String) where
  entries : Entries
  ordered : Keyed.Ordered entries
  record : TokenRecord
  reads : TokenRecord.read 0 (Json.object entries) = .ok record
  named : record.accessor = some id

/-- The tokens an agent stores. -/
abbrev Store := (id : String) → Option (StoredToken id)

namespace StoredToken

/-- The token that has nothing but its identifier. -/
def bare (id : String) : StoredToken id where
  entries := [("AccessorID", .string id)]
  ordered := List.pairwise_singleton _ _
  record := { TokenRecord.empty with accessor := some id }
  reads := rfl
  named := rfl

variable {id : String}

/-- The document of a stored token. -/
def document (token : StoredToken id) : Json := .object token.entries

/-- The attributes of a stored token that a description determines. -/
def managed (token : StoredToken id) : Managed := token.record.toManaged

/-- A part of a stored token's entries that has its identifier. -/
structure ShownBy (token : StoredToken id) (part : Entries) : Prop where
  sublist : part.Sublist token.entries
  named : part.get? "AccessorID" = some (.string id)

end StoredToken

/-! ## Parts of documents -/

namespace TokenRecord

/-- What a part of the entries tells of an optional field adds nothing to what all of them tell. -/
theorem contentOf_part {τ : Type} {entries part : Entries} (honce : Keyed.Once names entries)
    (hsub : part.Sublist entries) {name : String} (hname : name ∈ names)
    {read : Json → Except Fault τ} {content : Option τ}
    (h : contentOf entries (optionalField name read) = .ok content) :
    ∃ listed, contentOf part (optionalField name read) = .ok listed ∧
      content.or listed = content := by
  cases hget : part.get? name with
  | none => exact ⟨none, contentOf_of_none hget rfl, Option.or_none⟩
  | some value =>
    have hwhole : entries.get? name = some value :=
      honce.get?_of_mem hname (hsub.subset (Keyed.mem_of_get?_eq_some hget))
    have hfull : contentOf entries (optionalField name read) = readOptional read value :=
      contentOf_of_some hwhole
    have hpart : contentOf part (optionalField name read) = readOptional read value :=
      contentOf_of_some hget
    exact ⟨content, hpart.trans (hfull.symm.trans h), Option.or_self⟩

/-- A part of a document is read as a record that adds nothing to the managed attributes of the
full record. -/
theorem exists_read_of_sublist {entries part : Entries} {full : TokenRecord}
    (hfull : read 0 (Json.object entries) = .ok full) (hsub : part.Sublist entries) {name : String}
    (hname : part.get? "AccessorID" = some (.string name)) :
    ∃ listed, read 0 (Json.object part) = .ok listed ∧ listed.accessor = some name ∧
      (merge listed full).toManaged = full.toManaged := by
  obtain ⟨honce, hholds, -⟩ := read_object_iff.1 hfull
  have haccessor : contentOf part accessorField = .ok (some name) :=
    (contentOf_of_some hname).trans rfl
  obtain ⟨secret, hsecret, -⟩ :=
    contentOf_part honce hsub (by decide) hholds.secret
  obtain ⟨description, hdescription, edescription⟩ :=
    contentOf_part honce hsub (by decide) hholds.description
  obtain ⟨isLocal, hlocal, elocal⟩ :=
    contentOf_part honce hsub (by decide) hholds.isLocal
  obtain ⟨policies, hpolicies, epolicies⟩ :=
    contentOf_part honce hsub (by decide) hholds.policies
  obtain ⟨roles, hroles, eroles⟩ :=
    contentOf_part honce hsub (by decide) hholds.roles
  obtain ⟨services, hservices, eservices⟩ :=
    contentOf_part honce hsub (by decide) hholds.serviceIdentities
  obtain ⟨nodes, hnodes, enodes⟩ :=
    contentOf_part honce hsub (by decide) hholds.nodeIdentities
  refine ⟨⟨⟨description, isLocal, policies, roles, services, nodes⟩, some name, secret,
    Keyed.ofList (otherEntries names id part)⟩, ?_, rfl, ?_⟩
  · exact read_object_iff.2 ⟨honce.sublist hsub, ⟨⟨hdescription, hlocal, hpolicies, hroles,
      hservices, hnodes⟩, haccessor, hsecret⟩, rfl⟩
  · simp only [merge, edescription, elocal, epolicies, eroles, eservices, enodes]

end TokenRecord

/-! ## Listings -/

namespace Store

/-- The managed attributes of a token, if it is stored. -/
def managed (store : Store) (id : String) : Option Managed := (store id).map StoredToken.managed

theorem isSome_managed (store : Store) (id : String) :
    (store.managed id).isSome = (store id).isSome := Option.isSome_map

/-- The documents of a listing: each is read as a record without identifier or shows a part of a
stored token, and every stored token is shown. -/
structure Lists (store : Store) (items : List Json) : Prop where
  sound : ∀ item ∈ items,
    (∃ record, TokenRecord.read 0 item = .ok record ∧ record.accessor = none) ∨
    ∃ id token part, store id = some token ∧ token.ShownBy part ∧ item = .object part
  complete : ∀ id token, store id = some token → ∃ part, token.ShownBy part ∧ .object part ∈ items

/-- The store backs what a record tells: the record names no token, or a stored one of which it
tells nothing new. -/
def Backs (store : Store) (record : TokenRecord) : Prop :=
  ∀ id, record.accessor = some id → ∃ token, store id = some token ∧
    (TokenRecord.merge record token.record).toManaged = token.managed

theorem Lists.exists_read {store : Store} {items : List Json} (h : store.Lists items)
    {item : Json} (hitem : item ∈ items) :
    ∃ record, TokenRecord.read 0 item = .ok record ∧ store.Backs record := by
  obtain ⟨record, hread, hnone⟩ | ⟨id, token, part, htoken, hshown, rfl⟩ := h.sound item hitem
  · exact ⟨record, hread, fun id hid => nomatch hnone.symm.trans hid⟩
  · obtain ⟨listed, hread, hnamed, hmerge⟩ :=
      TokenRecord.exists_read_of_sublist token.reads hshown.sublist hshown.named
    refine ⟨listed, hread, fun other hother => ?_⟩
    obtain rfl : id = other := Option.some.inj (hnamed.symm.trans hother)
    exact ⟨token, htoken, hmerge⟩

/-- A listing can be read, and its last entry for an identifier says whether a token is stored under
it. -/
theorem Lists.read_listing {store : Store} {items : List Json} (h : store.Lists items) :
    ∃ records, items.mapM (TokenRecord.read 0) = .ok records ∧
      (∀ record ∈ records, store.Backs record) ∧
      ∀ id, lastNamed records id = none ↔ store id = none := by
  obtain ⟨records, hreads, hbacks⟩ := exists_mapM_eq_ok fun item hitem => h.exists_read hitem
  refine ⟨records, hreads, hbacks, fun id => ?_⟩
  rw [lastNamed_eq_none_iff]
  constructor
  · intro hnone
    cases htoken : store id with
    | none => rfl
    | some token =>
      obtain ⟨part, hshown, hmem⟩ := h.complete id token htoken
      obtain ⟨record, hrecord, hread⟩ := exists_mem_of_mapM hreads hmem
      obtain ⟨listed, hlisted, hnamed, -⟩ :=
        TokenRecord.exists_read_of_sublist token.reads hshown.sublist hshown.named
      obtain rfl : record = listed := Except.ok.inj (hread.symm.trans hlisted)
      exact absurd hnamed (hnone record hrecord)
  · intro hstore record hrecord hnamed
    obtain ⟨token, htoken, -⟩ := hbacks record hrecord id hnamed
    exact nomatch hstore.symm.trans htoken

/-- The store without tokens. -/
def empty : Store := fun _ => none

theorem lists_empty : empty.Lists [] where
  sound _ h := absurd h List.not_mem_nil
  complete _ _ h := absurd h (Option.some_ne_none _).symm

/-- A listing of a store with one more token has one more document. -/
theorem Lists.update {store : Store} {items : List Json} (h : store.Lists items) {id : String}
    (hid : store id = none) {token : StoredToken id} {part : Entries}
    (hshown : token.ShownBy part) :
    Store.Lists (Function.update store id (some token)) (.object part :: items) where
  sound item hitem := by
    rcases List.mem_cons.1 hitem with rfl | hitem
    · exact .inr ⟨id, token, part, Function.update_self _ _ _, hshown, rfl⟩
    · obtain hnone | ⟨other, stored, part', hstored, hshown', rfl⟩ := h.sound item hitem
      · exact .inl hnone
      · have hne : other ≠ id := by
          rintro rfl
          exact nomatch hid.symm.trans hstored
        exact .inr ⟨other, stored, part', by rw [Function.update_of_ne hne, hstored], hshown', rfl⟩
  complete other stored hstored := by
    by_cases heq : other = id
    · subst heq
      rw [Function.update_self] at hstored
      obtain rfl := Option.some.inj hstored
      exact ⟨part, hshown, List.mem_cons_self⟩
    · rw [Function.update_of_ne heq] at hstored
      obtain ⟨part', hshown', hmem⟩ := h.complete other stored hstored
      exact ⟨part', hshown', List.mem_cons_of_mem _ hmem⟩

end Store

end TokenSync
