import Mathlib.Data.List.DropRight
import TokenSync.Proofs.Verdict

/-!
# What the check of settings lets pass and what it reports

Settings are well formed if each part of them is, and these are the settings that pass. For others
the check reports each of their problems once: those of the connection, then the identifier, then
the elements of the four lists that describe no grant, each with its place in its list.
-/
namespace TokenSync

open Json

/-! ## Elements that describe no grant -/

section

variable {τ : Type} {ofInput : Json → Except Reason τ}

/-- These are the elements of a list that describe no grant: their places in the order of the list,
and the reason for each. -/
structure Rejects (ofInput : Json → Except Reason τ) (inputs : List Json)
    (found : List (Nat × Reason)) : Prop where
  ordered : found.Pairwise fun earlier later => earlier.1 < later.1
  mem_iff (index : Nat) (reason : Reason) : (index, reason) ∈ found ↔
    ∃ input, inputs[index]? = some input ∧ ofInput input = .error reason

namespace Rejects

variable {inputs : List Json} {found other : List (Nat × Reason)}

theorem nodup (h : Rejects ofInput inputs found) : found.Nodup := by
  refine h.ordered.imp fun {earlier later} hlt heq => ?_
  rw [heq] at hlt
  exact Nat.lt_irrefl later.1 hlt

/-- Places and reasons are determined by the list. -/
theorem unique (h : Rejects ofInput inputs found) (ho : Rejects ofInput inputs other) :
    found = other := by
  have hperm : found.Perm other := (List.perm_ext_iff_of_nodup h.nodup ho.nodup).2 fun place =>
    (h.mem_iff place.1 place.2).trans (ho.mem_iff place.1 place.2).symm
  have hasymm (x y : Nat × Reason) (hxy : x.1 < y.1) (hyx : y.1 < x.1) : x = y :=
    absurd hxy (Nat.lt_asymm hyx)
  exact hperm.eq_of_pairwise (fun x y _ _ => hasymm x y) h.ordered ho.ordered

theorem eq_nil_iff (h : Rejects ofInput inputs found) :
    found = [] ↔ ∀ input ∈ inputs, ∃ grant, ofInput input = .ok grant := by
  constructor
  · intro hnil input hinput
    obtain ⟨index, hindex⟩ := List.mem_iff_getElem?.1 hinput
    cases hread : ofInput input with
    | ok grant => exact ⟨grant, rfl⟩
    | error reason =>
      have hmem := (h.mem_iff index reason).2 ⟨input, hindex, hread⟩
      rw [hnil] at hmem
      cases hmem
  · intro hall
    refine List.eq_nil_iff_forall_not_mem.2 fun (index, reason) hmem => ?_
    obtain ⟨input, hindex, hread⟩ := (h.mem_iff index reason).1 hmem
    obtain ⟨grant, hgrant⟩ := hall input (List.mem_of_getElem? hindex)
    cases hgrant.symm.trans hread

end Rejects

/-- The places of the elements that describe no grant, with the reasons. -/
def rejections (ofInput : Json → Except Reason τ) (inputs : List Json) : List (Nat × Reason) :=
  inputs.zipIdx.filterMap fun (input, index) => (failureOf (ofInput input)).map (index, ·)

theorem rejects_rejections (ofInput : Json → Except Reason τ) (inputs : List Json) :
    Rejects ofInput inputs (rejections ofInput inputs) where
  ordered := by
    have hzip : inputs.zipIdx.Pairwise fun earlier later => earlier.2 < later.2 := by
      rw [← List.pairwise_map (f := Prod.snd), List.zipIdx_map_snd]
      exact List.pairwise_lt_range'
    refine hzip.filterMap _ fun earlier later hlt x hx y hy => ?_
    obtain ⟨reason, -, rfl⟩ := Option.map_eq_some_iff.1 hx
    obtain ⟨reason', -, rfl⟩ := Option.map_eq_some_iff.1 hy
    exact hlt
  mem_iff index reason := by
    simp only [rejections, List.mem_filterMap, Prod.exists, List.mem_zipIdx_iff_getElem?,
      Option.map_eq_some_iff, failureOf_eq_some_iff, Prod.mk.injEq]
    constructor
    · rintro ⟨input, _, hinput, _, hreason, rfl, rfl⟩
      exact ⟨input, hinput, hreason⟩
    · rintro ⟨input, hinput, hreason⟩
      exact ⟨input, index, hinput, reason, hreason, rfl, rfl⟩

theorem rejected_eq (ofInput : Json → Except Reason τ) (problem : Nat → Reason → Problem)
    (inputs : List Json) : rejected ofInput problem inputs =
      (rejections ofInput inputs).map fun place => problem place.1 place.2 := by
  unfold rejected rejections
  rw [List.map_filterMap]
  refine congrArg (List.filterMap · inputs.zipIdx) (funext fun place => ?_)
  obtain ⟨input, index⟩ := place
  simp only
  cases ofInput input <;> rfl

/-- A list whose elements all describe grants is taken over item by item. -/
theorem forall₂_accepted {inputs : List Json}
    (h : ∀ input ∈ inputs, ∃ grant, ofInput input = .ok grant) :
    List.Forall₂ (fun input grant => ofInput input = .ok grant) inputs
      (accepted ofInput inputs) := by
  induction inputs with
  | nil => exact .nil
  | cons input inputs ih =>
    obtain ⟨⟨grant, hgrant⟩, hrest⟩ := List.forall_mem_cons.1 h
    have hcons : accepted ofInput (input :: inputs) = grant :: accepted ofInput inputs := by
      simp [accepted, hgrant, Except.toOption]
    rw [hcons]
    exact .cons hgrant (ih hrest)

/-- Item by item is one way only. -/
theorem eq_of_forall₂_ofInput {inputs : List Json} {grants others : List τ}
    (h : List.Forall₂ (fun input grant => ofInput input = .ok grant) inputs grants)
    (ho : List.Forall₂ (fun input grant => ofInput input = .ok grant) inputs others) :
    grants = others :=
  Except.ok.inj ((mapM_eq_ok_iff.2 h).symm.trans (mapM_eq_ok_iff.2 ho))

end

/-! ## Texts of white space -/

theorem Text.trim_eq_nil_iff {cs : List Char} :
    Text.trim cs = [] ↔ ∀ c ∈ cs, Text.isBlank c = true := by
  rw [Text.trim, List.reverse_eq_nil_iff, List.dropWhile_eq_nil_iff]
  simp only [List.mem_reverse]
  rw [← List.dropWhile_eq_nil_iff, List.dropWhile_idempotent, List.dropWhile_eq_nil_iff]

theorem isBlankText_eq_false_iff {text : String} :
    isBlankText text = false ↔ ∃ c ∈ text.toList, Text.isBlank c = false := by
  rw [isBlankText, ← Bool.not_eq_true, List.isEmpty_iff, Text.trim_eq_nil_iff]
  simp

/-! ## Well-formed settings -/

/-- The management token is missing, empty or a text that can be sent as the value of a header. -/
def Connection.HasLegalToken (connection : Connection) : Prop :=
  ∀ token ∈ connection.managementToken, token.expose = "" ∨ isHeaderValue token.expose = true

instance (connection : Connection) : Decidable connection.HasLegalToken :=
  inferInstanceAs (Decidable (∀ token ∈ connection.managementToken,
    token.expose = "" ∨ isHeaderValue token.expose = true))

/-- The identifier has a character that is no white space. -/
def TokenSpec.HasId (spec : TokenSpec) : Prop := ∃ c ∈ spec.id.toList, Text.isBlank c = false

instance (spec : TokenSpec) : Decidable spec.HasId :=
  inferInstanceAs (Decidable (∃ c ∈ spec.id.toList, Text.isBlank c = false))

/-- A connection and a description of which each part is as it should be. -/
structure WellFormed (connection : Connection) (spec : TokenSpec) : Prop where
  scheme : connection.scheme = "http" ∨ connection.scheme = "https"
  token : connection.HasLegalToken
  id : spec.HasId
  policies : ∀ input ∈ spec.policies, ∃ link, Link.ofInput input = .ok link
  roles : ∀ input ∈ spec.roles, ∃ link, Link.ofInput input = .ok link
  serviceIdentities : ∀ input ∈ spec.serviceIdentities, ∃ identity,
    ServiceIdentity.ofInput input = .ok identity
  nodeIdentities : ∀ input ∈ spec.nodeIdentities, ∃ identity,
    NodeIdentity.ofInput input = .ok identity

/-- A problem, unless something is as it should be. -/
def problemUnless (p : Prop) [Decidable p] (problem : Problem) : List Problem :=
  if p then [] else [problem]

theorem problemUnless_eq_nil_iff {p : Prop} [Decidable p] {problem : Problem} :
    problemUnless p problem = [] ↔ p := by
  unfold problemUnless
  by_cases h : p <;> simp [h]

/-- These are all problems of a connection and a description, each of them once and in their
order. -/
def AllProblems (connection : Connection) (spec : TokenSpec) (problems : List Problem) : Prop :=
  ∃ policies roles services nodes,
    Rejects Link.ofInput spec.policies policies ∧
    Rejects Link.ofInput spec.roles roles ∧
    Rejects ServiceIdentity.ofInput spec.serviceIdentities services ∧
    Rejects NodeIdentity.ofInput spec.nodeIdentities nodes ∧
    problems =
      problemUnless (connection.scheme = "http" ∨ connection.scheme = "https")
        (.unsupportedScheme connection.scheme) ++
      problemUnless connection.HasLegalToken .managementToken ++
      problemUnless spec.HasId .missingId ++
      policies.map (fun place => .link .policy place.1 place.2) ++
      roles.map (fun place => .link .role place.1 place.2) ++
      services.map (fun place => .serviceIdentity place.1 place.2) ++
      nodes.map fun place => .nodeIdentity place.1 place.2

/-- No problem is what well-formed settings have. -/
theorem AllProblems.eq_nil_iff {connection : Connection} {spec : TokenSpec}
    {problems : List Problem} (h : AllProblems connection spec problems) :
    problems = [] ↔ WellFormed connection spec := by
  obtain ⟨policies, roles, services, nodes, hpolicies, hroles, hservices, hnodes, rfl⟩ := h
  simp only [List.append_eq_nil_iff, List.map_eq_nil_iff, problemUnless_eq_nil_iff,
    hpolicies.eq_nil_iff, hroles.eq_nil_iff, hservices.eq_nil_iff, hnodes.eq_nil_iff, and_assoc]
  constructor
  · rintro ⟨hscheme, htoken, hid, hpolicies, hroles, hservices, hnodes⟩
    exact ⟨hscheme, htoken, hid, hpolicies, hroles, hservices, hnodes⟩
  · rintro ⟨hscheme, htoken, hid, hpolicies, hroles, hservices, hnodes⟩
    exact ⟨hscheme, htoken, hid, hpolicies, hroles, hservices, hnodes⟩

/-! ## What the check finds -/

theorem Secret.nonempty?_eq_some_iff {given : Option Secret} {secret : Secret} :
    Secret.nonempty? given = some secret ↔ given = some secret ∧ secret.expose ≠ "" := by
  cases given with
  | none => exact ⟨nofun, fun h => nomatch h.1⟩
  | some token =>
    by_cases hempty : token.expose = ""
    · have hnone : Secret.nonempty? (some token) = none := by simp [nonempty?, hempty]
      rw [hnone]
      refine ⟨nofun, ?_⟩
      rintro ⟨htoken, hne⟩
      cases htoken
      exact absurd hempty hne
    · have hsome : Secret.nonempty? (some token) = some token := by simp [nonempty?, hempty]
      rw [hsome]
      refine ⟨fun htoken => ⟨htoken, ?_⟩, And.left⟩
      cases htoken
      exact hempty

theorem Connection.hasLegalToken_iff {connection : Connection} :
    connection.HasLegalToken ↔
      ∀ token, connection.credential = some token → isHeaderValue token.expose = true := by
  simp only [HasLegalToken, credential, Secret.nonempty?_eq_some_iff, Option.mem_def]
  constructor
  · rintro h token ⟨hgiven, hne⟩
    exact (h token hgiven).resolve_left hne
  · intro h token hgiven
    by_cases hempty : token.expose = ""
    · exact .inl hempty
    · exact .inr (h token ⟨hgiven, hempty⟩)

theorem Connection.problems_eq (connection : Connection) :
    connection.problems =
      problemUnless (connection.scheme = "http" ∨ connection.scheme = "https")
        (.unsupportedScheme connection.scheme) ++
      problemUnless connection.HasLegalToken .managementToken := by
  refine congrArg (List.append _) ?_
  have hlegal := connection.hasLegalToken_iff
  by_cases h : connection.HasLegalToken
  · rw [problemUnless, if_pos h]
    cases hcredential : connection.credential with
    | none => rfl
    | some token => simp [hlegal.1 h token hcredential]
  · rw [problemUnless, if_neg h]
    cases hcredential : connection.credential with
    | none => simp [hlegal, hcredential] at h
    | some token =>
      simp only [hlegal, hcredential, Option.some.injEq, forall_eq'] at h
      simp [h]

theorem TokenSpec.problems_eq (spec : TokenSpec) :
    spec.problems = problemUnless spec.HasId .missingId ++
      (rejections Link.ofInput spec.policies).map (fun place => .link .policy place.1 place.2) ++
      (rejections Link.ofInput spec.roles).map (fun place => .link .role place.1 place.2) ++
      (rejections ServiceIdentity.ofInput spec.serviceIdentities).map
        (fun place => .serviceIdentity place.1 place.2) ++
      (rejections NodeIdentity.ofInput spec.nodeIdentities).map
        fun place => .nodeIdentity place.1 place.2 := by
  have hid : (if isBlankText spec.id then [Problem.missingId] else []) =
      problemUnless spec.HasId .missingId := by
    unfold problemUnless HasId
    simp only [← isBlankText_eq_false_iff]
    cases isBlankText spec.id <;> rfl
  simp only [problems, hid, rejected_eq]

/-- The check finds all problems and no others. -/
theorem allProblems_iff {connection : Connection} {spec : TokenSpec} {problems : List Problem} :
    AllProblems connection spec problems ↔ problems = connection.problems ++ spec.problems := by
  rw [Connection.problems_eq, TokenSpec.problems_eq]
  constructor
  · rintro ⟨policies, roles, services, nodes, hpolicies, hroles, hservices, hnodes, rfl⟩
    rw [hpolicies.unique (rejects_rejections _ _), hroles.unique (rejects_rejections _ _),
      hservices.unique (rejects_rejections _ _), hnodes.unique (rejects_rejections _ _)]
    simp only [List.append_assoc]
  · intro h
    refine ⟨_, _, _, _, rejects_rejections _ _, rejects_rejections _ _, rejects_rejections _ _,
      rejects_rejections _ _, ?_⟩
    rw [h]
    simp only [List.append_assoc]

theorem validate_eq_error_iff {connection : Connection} {spec : TokenSpec}
    {problems : List Problem} :
    validate connection spec = .error problems ↔
      problems ≠ [] ∧ problems = connection.problems ++ spec.problems := by
  unfold validate
  split
  · next h => simp [h]
  · next found h =>
    simp only [Except.error.injEq]
    exact ⟨fun heq => ⟨heq ▸ h, heq.symm⟩, fun heq => heq.2.symm⟩

/-! ## What the check gives -/

/-- A token is as its description says: an empty secret counts as none, every element of a list is
taken over in its place, and all else is the same. -/
structure Desired.Follows (desired : Desired) (spec : TokenSpec) : Prop where
  id : desired.id = spec.id
  description : desired.description = spec.description
  isLocal : desired.isLocal = spec.isLocal
  state : desired.state = spec.state
  secret (secret : Secret) :
    desired.secret = some secret ↔ spec.secret = some secret ∧ secret.expose ≠ ""
  policies : List.Forall₂ (fun input link => Link.ofInput input = .ok link) spec.policies
    desired.policies
  roles : List.Forall₂ (fun input link => Link.ofInput input = .ok link) spec.roles desired.roles
  serviceIdentities : List.Forall₂
    (fun input identity => ServiceIdentity.ofInput input = .ok identity)
    spec.serviceIdentities desired.serviceIdentities
  nodeIdentities : List.Forall₂
    (fun input identity => NodeIdentity.ofInput input = .ok identity)
    spec.nodeIdentities desired.nodeIdentities

/-- A description follows to one token. -/
theorem Desired.Follows.unique {desired other : Desired} {spec : TokenSpec}
    (h : desired.Follows spec) (ho : other.Follows spec) : desired = other := by
  have hsecret : desired.secret = other.secret :=
    Option.ext fun secret => (h.secret secret).trans (ho.secret secret).symm
  have hpolicies := eq_of_forall₂_ofInput h.policies ho.policies
  have hroles := eq_of_forall₂_ofInput h.roles ho.roles
  have hservices := eq_of_forall₂_ofInput h.serviceIdentities ho.serviceIdentities
  have hnodes := eq_of_forall₂_ofInput h.nodeIdentities ho.nodeIdentities
  have hid := h.id.trans ho.id.symm
  have hdescription := h.description.trans ho.description.symm
  have hlocal := h.isLocal.trans ho.isLocal.symm
  have hstate := h.state.trans ho.state.symm
  cases desired
  cases other
  simp_all only

theorem WellFormed.desired_follows {connection : Connection} {spec : TokenSpec}
    (h : WellFormed connection spec) : spec.desired.Follows spec where
  id := rfl
  description := rfl
  isLocal := rfl
  state := rfl
  secret _ := Secret.nonempty?_eq_some_iff
  policies := forall₂_accepted h.policies
  roles := forall₂_accepted h.roles
  serviceIdentities := forall₂_accepted h.serviceIdentities
  nodeIdentities := forall₂_accepted h.nodeIdentities

/-- **The check passes what is well formed**, and gives the connection as it is and the token that
follows from the description. -/
theorem validate_eq_ok_iff_wellFormed {connection : Connection} {spec : TokenSpec}
    {configuration : Configuration} :
    validate connection spec = .ok configuration ↔ WellFormed connection spec ∧
      configuration.connection = connection ∧ configuration.token.Follows spec := by
  rw [validate_eq_ok_iff, ← List.append_eq_nil_iff, (allProblems_iff.2 rfl).eq_nil_iff]
  refine and_congr_right fun hformed => ?_
  constructor
  · rintro rfl
    exact ⟨rfl, hformed.desired_follows⟩
  · rintro ⟨rfl, hfollows⟩
    rw [hformed.desired_follows.unique hfollows]

/-- **The check reports what is not well formed**, and all problems there are. -/
theorem validate_eq_error_iff_allProblems {connection : Connection} {spec : TokenSpec}
    {problems : List Problem} :
    validate connection spec = .error problems ↔
      ¬ WellFormed connection spec ∧ AllProblems connection spec problems := by
  rw [validate_eq_error_iff, ← allProblems_iff]
  exact and_congr_left fun hall => not_congr hall.eq_nil_iff

/-! ## Runs -/

/-- A run whose settings pass the check does not fail on them. -/
theorem result_ne_settings {σ : Type} {connection : Connection} {spec : TokenSpec}
    {configuration : Configuration} (hvalid : validate connection spec = .ok configuration)
    (agent : Agent σ) (state : σ) (problems : List Problem) :
    ((reconcile connection spec).transcript agent state).result ≠
      .error (.settings problems) := by
  intro hresult
  rw [reconcile_of_valid hvalid] at hresult
  obtain ⟨-, hlast⟩ := (connection.heeds_reconcile spec.desired).transcript agent state
  rw [failureOf_eq_some_iff.2 hresult] at hlast
  obtain ⟨exchange, -, hfailure⟩ := Option.bind_eq_some_iff.1 hlast.symm
  exact connection.failure?_ne_settings _ _ _ hfailure

/-- The check passes the settings that are well formed, with the token that follows from them, and
reports all problems of all others. A run with settings that do not pass fails with these problems
before anything is sent. With settings that pass the headers can be made, something is sent, and
the run does not fail on the settings. -/
theorem validate_finds_all_problems (connection : Connection) (spec : TokenSpec) :
    ((∃ configuration, validate connection spec = .ok configuration) ↔
      WellFormed connection spec) ∧
    (∀ problems, validate connection spec = .error problems ↔
      ¬ WellFormed connection spec ∧ AllProblems connection spec problems) ∧
    (∀ configuration, validate connection spec = .ok configuration →
      configuration.connection = connection ∧ configuration.token.Follows spec) ∧
    ∀ {σ : Type} (agent : Agent σ) (state : σ),
      let run := (reconcile connection spec).transcript agent state
      (∀ problems, validate connection spec = .error problems →
        run = ⟨.error (.settings problems), [], state⟩) ∧
      ∀ configuration, validate connection spec = .ok configuration →
        (∃ client, Client.ofConnection configuration.connection = .ok client) ∧
        run.exchanges ≠ [] ∧ ∀ problems, run.result ≠ .error (.settings problems) := by
  refine ⟨⟨?_, ?_⟩, fun problems => validate_eq_error_iff_allProblems, ?_, ?_⟩
  · rintro ⟨configuration, hvalid⟩
    exact (validate_eq_ok_iff_wellFormed.1 hvalid).1
  · intro hformed
    exact ⟨⟨connection, spec.desired⟩,
      validate_eq_ok_iff_wellFormed.2 ⟨hformed, rfl, hformed.desired_follows⟩⟩
  · intro configuration hvalid
    exact (validate_eq_ok_iff_wellFormed.1 hvalid).2
  · intro σ agent state run
    constructor
    · intro problems hinvalid
      simp only [run, reconcile_of_invalid hinvalid, Conversation.transcript_ended]
    · intro configuration hvalid
      obtain ⟨⟨hconnection, -⟩, rfl⟩ := validate_eq_ok_iff.1 hvalid
      refine ⟨⟨_, Client.ofConnection_of_problems hconnection⟩, ?_,
        result_ne_settings hvalid agent state⟩
      simp only [run, reconcile_of_valid hvalid]
      exact connection.client.exchanges_reconcile_ne_nil spec.desired agent state

example : validate { scheme := "ftp", managementToken := some ⟨"a\nb"⟩ }
    { id := "\u00a0", policies := [.string "p"],
      nodeIdentities := [.object [("name", .string "n")], .object []] } =
    .error [.unsupportedScheme "ftp", .managementToken, .missingId, .link .policy 0 .notLink,
      .nodeIdentity 1 (.required "name")] := by
  decide +kernel

end TokenSync
