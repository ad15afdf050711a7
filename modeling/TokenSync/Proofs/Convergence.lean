import TokenSync.Proofs.History
import TokenSync.Proofs.Written

/-!
# Histories converge

An agent that stores what it is sent, and fills in only what it has not been told, ends every
history with each token as the last run that names it wants it.
-/
namespace TokenSync

open Json

/-- What is sent is stored. A new token may have more than was sent, and another value where nothing
was sent for a name that no description determines; an updated one is overlaid with what is sent. -/
def Rule.faithful : Rule where
  creates _ body new := ∀ name value, body.get? name = some value →
    value ≠ .null ∨ name ∈ TokenRecord.managedNames → new.entries.get? name = some value
  updates _ old body new := new.entries = Keyed.overlay old.entries body

/-- Entries that can be read and have an identifier are those of a token. -/
theorem StoredToken.exists_of_readable {id : String} {entries : Entries}
    (hordered : entries.Ordered) (hreadable : TokenRecord.Readable entries)
    (hid : entries.get? "AccessorID" = some (.string id)) :
    ∃ new : StoredToken id, new.entries = entries := by
  obtain ⟨record, hread⟩ := TokenRecord.exists_read_iff.2 ⟨hordered.once _, hreadable⟩
  exact ⟨⟨entries, hordered, record, hread, (TokenRecord.accessor_eq_some_iff hread).2 hid⟩, rfl⟩

theorem StoredToken.readable {id : String} (token : StoredToken id) :
    TokenRecord.Readable token.entries :=
  (TokenRecord.exists_read_iff.1 ⟨token.record, token.reads⟩).2

/-- A faithful agent can store whatever is sent about a token. -/
theorem Rule.admits_faithful (desired : Desired) (version : Version) :
    Rule.faithful.Admits desired version where
  creates := by
    have hreadable : TokenRecord.Readable (desired.createEntries version) := by
      refine TokenRecord.Readable.overlay nofun fun entry hentry => ?_
      rcases List.mem_append.1 hentry with hidentity | hwrite
      · exact TokenRecord.fits_of_mem_identityEntries hidentity
      · exact TokenRecord.fits_of_mem_writeEntries hwrite
    obtain ⟨new, hnew⟩ := StoredToken.exists_of_readable (desired.ordered_createEntries version)
      hreadable (desired.get?_createEntries_accessor version)
    exact ⟨new, fun _ _ hget _ => hnew ▸ hget⟩
  updates old := by
    have hreadable : TokenRecord.Readable
        (Keyed.overlay old.entries (desired.updateEntries version)) :=
      old.readable.overlay fun entry hentry =>
        TokenRecord.fits_of_mem_writeEntries (Keyed.mem_of_mem_ofList hentry)
    have hmanaged : "AccessorID" ∉ TokenRecord.managedNames := by decide
    have hid := Desired.get?_overlay_of_not_mem hmanaged desired version old.entries
    rw [(TokenRecord.accessor_eq_some_iff old.reads).1 old.named] at hid
    exact StoredToken.exists_of_readable (old.ordered.overlay _) hreadable hid

/-- The description of the last run that names a token. -/
def lastFor (runs : List Run) (id : String) : Option TokenSpec :=
  (runs.reverse.find? fun run => run.2.id == id).map Prod.snd

theorem lastFor_cons (run : Run) (rest : List Run) (id : String) :
    lastFor (run :: rest) id =
      (lastFor rest id).or (if run.2.id = id then some run.2 else none) := by
  unfold lastFor
  rw [List.reverse_cons, List.find?_append, Option.map_or]
  congr 1
  by_cases h : run.2.id = id <;> simp [h]

/-- What has become of a token is what the last description of it says, if there is one. -/
def Converged (version : Version) {id : String} (before after : Option (StoredToken id)) :
    Option TokenSpec → Prop
  | none => after = before
  | some spec =>
    match spec.state with
    | .absent => after = none
    | .present => ∃ token, after = some token ∧ spec.desired.MetBy version token.managed

section

variable {version : Version} {before after : Store} {report : Report}

/-- A run leaves its token as its description wants it. -/
theorem Settles.converged {spec : TokenSpec}
    (h : Settles .faithful version spec.desired before after report) :
    Converged version (before spec.id) (after spec.id) (some spec) := by
  cases h with
  | missing hstate hbefore =>
    have hspec : spec.state = .absent := hstate
    simp only [Converged, hspec]
    exact hbefore
  | removed hstate =>
    have hspec : spec.state = .absent := hstate
    simp only [Converged, hspec]
    exact Function.update_self _ _ _
  | created new hstate _ hnew =>
    have hspec : spec.state = .present := hstate
    simp only [Converged, hspec]
    refine ⟨new, Function.update_self _ _ _, Desired.metBy_of_get? new.reads fun entry hentry => ?_⟩
    have hname := Desired.name_mem_of_mem_writeEntries hentry
    exact hnew _ _ (Desired.get?_createEntries (List.mem_append_right _ hentry)
      (Desired.managedNames_subset hname)) (.inr hname)
  | updated old new hstate _ hnew =>
    have hspec : spec.state = .present := hstate
    have hentries : new.entries =
      Keyed.overlay old.entries (spec.desired.updateEntries version) := hnew
    simp only [Converged, hspec]
    refine ⟨new, Function.update_self _ _ _, Desired.metBy_of_get? new.reads fun entry hentry => ?_⟩
    rw [hentries]
    exact Desired.get?_overlay_of_mem hentry old.entries

/-- Every token is left as the last run that names it wants it. -/
theorem Unfolds.converged {runs : List Run} {reports : List Report}
    (h : Unfolds .faithful version before runs reports after) (id : String) :
    Converged version (before id) (after id) (lastFor runs id) := by
  induction h with
  | done => rfl
  | @next before between after run rest _ _ first _ ih =>
    rw [lastFor_cons]
    -- The later runs have the last word if one of them names the token.
    cases hlast : lastFor rest id with
    | some spec =>
      rw [hlast] at ih
      exact ih
    | none =>
      rw [hlast] at ih
      have hsame : after id = between id := ih
      rw [Option.none_or, hsame]
      by_cases hid : run.2.id = id
      · subst hid
        rw [if_pos rfl]
        exact first.converged
      · rw [if_neg hid]
        exact first.other_unchanged (Ne.symm hid)

end

/-- **Whatever tokens are brought to whatever states in whatever order, every run succeeds, and in
the end a token that no run has named is untouched, and every other one is missing or tells what is
desired, as the last run that named it wants it.** -/
theorem histories_converge {σ : Type} {version : Version} {agent : Agent σ} {store : σ → Store}
    {runs : List Run} (hvalid : ∀ run ∈ runs, run.Valid) {state : σ}
    (hserved : Served .faithful version agent store (history runs) state) :
    let all := (history runs).run agent state
    (∃ reports : List Report, all.result = reports.map .ok ∧ reports.length = runs.length) ∧
      ∀ id, Converged version (store state id) (store all.state id) (lastFor runs id) := by
  obtain ⟨reports, hresult, hunfolds⟩ :=
    history_unfolds hvalid (fun run _ => Rule.admits_faithful run.2.desired version) hserved
  exact ⟨⟨reports, hresult, hunfolds.length_eq⟩, hunfolds.converged⟩

theorem histories_converge_of_script :
    let runs : List Run := List.replicate 2 ({}, createdSpec)
    let all := (history runs).run Agent.scripted twiceScript
    (∀ run ∈ runs, run.Valid) ∧
      Served .faithful .nodeIdentitiesSince Agent.scripted twiceScript.store (history runs)
        twiceScript ∧
      ∃ token, twiceScript.store all.state "a" = some token ∧
        createdSpec.desired.MetBy .nodeIdentitiesSince token.managed := by
  intro runs all
  have hvalid : ∀ run ∈ runs, run.Valid := fun run hrun =>
    List.eq_of_mem_replicate hrun ▸ ⟨_, createdSpec_valid⟩
  have hsent : ∀ entry ∈ createdSpec.desired.createEntries .nodeIdentitiesSince,
      entry.2 ≠ .null ∨ entry.1 ∈ TokenRecord.managedNames →
        StoredToken.created.entries.get? entry.1 = some entry.2 := by decide +kernel
  have hoverlaid : StoredToken.created.entries = Keyed.overlay StoredToken.created.entries
      (createdSpec.desired.updateEntries .nodeIdentitiesSince) := by decide +kernel
  have hserved : Served .faithful .nodeIdentitiesSince Agent.scripted twiceScript.store
      (history runs) twiceScript :=
    twiceScript.served (fun name value hget =>
      hsent (name, value) (Keyed.mem_of_get?_eq_some hget)) hoverlaid
  exact ⟨hvalid, hserved, (histories_converge hvalid hserved).2 "a"⟩

end TokenSync
