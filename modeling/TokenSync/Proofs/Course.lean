import TokenSync.Proofs.Exchange

/-!
# The course of a run

A run asks for the version and the listing and then takes the steps of one operation. Whatever the
agent replies, the requests that were sent are the beginning of such a course, so a run changes
something by its last request at most.
-/
namespace TokenSync

variable {σ : Type}

/-! ## Courses -/

namespace Operation

/-- The state of a token that an operation is for. -/
def target : Operation → Presence
  | .create | .update => .present
  | .remove => .absent

/-- The requests of an operation that is carried out. -/
def steps (headers : List (String × String)) (desired : Desired) (version : Version) :
    Operation → List Request
  | .create => [⟨.put, Client.newTokenPath, headers, some (desired.createBody version)⟩]
  | .update =>
    [⟨.get, Client.tokenPath desired.id, headers, none⟩,
      ⟨.put, Client.tokenPath desired.id, headers, some (desired.updateBody version)⟩]
  | .remove => [⟨.delete, Client.tokenPath desired.id, headers, none⟩]

/-- All requests of a run that carries out an operation. -/
def course (headers : List (String × String)) (desired : Desired) (version : Version)
    (operation : Operation) : List Request :=
  ⟨.get, Client.agentPath, headers, none⟩ :: ⟨.get, Client.listingPath, headers, none⟩ ::
    operation.steps headers desired version

/-- Two operations for one state have no step in common, not even the first one. -/
theorem eq_of_steps_prefix {headers : List (String × String)} {desired : Desired}
    {version version' : Version} {requests : List Request} {operation other : Operation}
    (hne : requests ≠ []) (h : requests <+: operation.steps headers desired version)
    (ho : requests <+: other.steps headers desired version') : operation = other := by
  obtain ⟨q, rest, rfl⟩ := List.exists_cons_of_ne_nil hne
  cases operation <;> cases other <;> simp_all [steps, List.cons_prefix_cons]

/-- A run that goes beyond the listing keeps to one course. -/
theorem eq_of_course_prefix {headers : List (String × String)} {desired : Desired}
    {version version' : Version} {requests : List Request} {operation other : Operation}
    (hlength : 2 < requests.length) (h : requests <+: operation.course headers desired version)
    (ho : requests <+: other.course headers desired version') : operation = other := by
  obtain ⟨q₁, q₂, q₃, rest, rfl⟩ : ∃ q₁ q₂ q₃ rest, requests = q₁ :: q₂ :: q₃ :: rest := by
    match requests, hlength with
    | q₁ :: q₂ :: q₃ :: rest, _ => exact ⟨q₁, q₂, q₃, rest, rfl⟩
  simp only [course, List.cons_prefix_cons] at h ho
  exact eq_of_steps_prefix (List.cons_ne_nil q₃ rest) h.2.2 ho.2.2

end Operation

/-- Whether a request changes something. -/
def Request.isWrite (q : Request) : Bool :=
  match q.method with
  | .get => false
  | .put | .delete => true

/-- The requests of a course before the last one change nothing. -/
theorem isWrite_of_mem_dropLast_course {headers : List (String × String)} {desired : Desired}
    {version : Version} {operation : Operation} {q : Request}
    (h : q ∈ (operation.course headers desired version).dropLast) : q.isWrite = false := by
  cases operation <;> simp [Operation.course, Operation.steps] at h <;>
    (rcases h with rfl | rfl | rfl <;> rfl)

/-- A run that breaks off keeps to that. -/
theorem isWrite_of_mem_dropLast {headers : List (String × String)} {desired : Desired}
    {version : Version} {operation : Operation} {requests : List Request}
    (h : requests <+: operation.course headers desired version) {q : Request}
    (hq : q ∈ requests.dropLast) : q.isWrite = false := by
  have hlast : requests.dropLast <+: (operation.course headers desired version).dropLast := by
    refine List.prefix_of_prefix_length_le ((List.dropLast_prefix _).trans h)
      (List.dropLast_prefix _) ?_
    have hlength := h.length_le
    simp only [List.length_dropLast]
    omega
  exact isWrite_of_mem_dropLast_course (hlast.subset hq)

theorem length_filter_isWrite_le {headers : List (String × String)} {desired : Desired}
    {version : Version} {operation : Operation} {requests : List Request}
    (h : requests <+: operation.course headers desired version) :
    (requests.filter Request.isWrite).length ≤ 1 := by
  refine Nat.le_trans (h.filter Request.isWrite).length_le ?_
  cases operation <;> exact Nat.le_refl 1

/-! ## Runs keep to a course -/

namespace Client

/-- What is done about a token is the beginning of the steps of one operation, and the listing
decides which one that is. -/
theorem act_requests (client : Client) (desired : Desired) (version : Version)
    (found : Option TokenRecord) (agent : Agent σ) (state : σ) :
    ∃ operation : Operation, operation.target = desired.state ∧
      ((client.act desired version found).transcript agent state).requests <+:
        operation.steps client.headers desired version ∧
      (((client.act desired version found).transcript agent state).requests ≠ [] →
        (operation = .create ↔ found = none)) := by
  cases found with
  | none =>
    cases h : desired.state with
    | absent => exact ⟨.remove, rfl, by simp [act, h, Transcript.requests]⟩
    | present =>
      refine ⟨.create, rfl, ?_, by simp⟩
      simp only [act, h, transcript_exchange]
      exact List.prefix_rfl
  | some listed =>
    cases h : desired.state with
    | absent =>
      refine ⟨.remove, rfl, ?_, by simp⟩
      simp only [act, h, transcript_exchange]
      exact List.prefix_rfl
    | present =>
      refine ⟨.update, rfl, ?_, by simp⟩
      simp only [act, h]
      cases hr : client.recordOf (tokenPath desired.id)
          (agent.respond (client.asks .get (tokenPath desired.id)) state).1 with
      | error e =>
        rw [transcript_exchange_bind_error hr]
        exact List.prefix_append [_] [_]
      | ok full =>
        rw [transcript_exchange_bind_ok hr, transcript_exchange]
        exact List.prefix_rfl

/-- The operation, the version and the listing that a run of a token comes by. -/
theorem reconcile_requests (client : Client) (desired : Desired) (agent : Agent σ) (state : σ) :
    let run := (client.reconcile desired).transcript agent state
    ∃ (operation : Operation) (version : Version), operation.target = desired.state ∧
      run.requests <+: operation.course client.headers desired version ∧
      (1 < run.requests.length → ∃ reply,
        run.exchanges[0]? = some (client.asks .get agentPath, reply) ∧
        client.versionOf reply = .ok version) ∧
      (2 < run.requests.length → ∃ reply listing,
        run.exchanges[1]? = some (client.asks .get listingPath, reply) ∧
        client.listingOf reply = .ok listing ∧
        (operation = .create ↔ lastNamed listing desired.id = none)) := by
  intro run
  -- A run that stops at the listing is the beginning of every course for its state.
  have early (requests : List Request)
      (h : requests <+: [client.asks .get agentPath, client.asks .get listingPath])
      (version : Version) : ∃ operation : Operation, operation.target = desired.state ∧
        requests <+: operation.course client.headers desired version := by
    cases hs : desired.state with
    | present => exact ⟨.create, rfl, h.trans (List.prefix_append [_, _] _)⟩
    | absent => exact ⟨.remove, rfl, h.trans (List.prefix_append [_, _] _)⟩
  obtain ⟨e, -, hrun⟩ | ⟨version, e, hversion, -, hrun⟩ |
      ⟨version, listing, hversion, hlisting, hrun⟩ :=
    client.transcript_reconcile desired agent state
  · have hrequests : run.requests = [client.asks .get agentPath] :=
      congrArg Transcript.requests hrun
    obtain ⟨operation, htarget, hprefix⟩ := early run.requests
      (hrequests ▸ List.prefix_append [_] [_]) .serviceIdentitiesSince
    exact ⟨operation, _, htarget, hprefix, by simp [hrequests], by simp [hrequests]⟩
  · have hrequests : run.requests = [client.asks .get agentPath, client.asks .get listingPath] :=
      congrArg Transcript.requests hrun
    obtain ⟨operation, htarget, hprefix⟩ := early run.requests
      (hrequests ▸ List.prefix_rfl) version
    refine ⟨operation, version, htarget, hprefix, fun _ => ⟨_, ?_, hversion⟩, by simp [hrequests]⟩
    simp only [run, hrun]
    rfl
  · obtain ⟨operation, htarget, hprefix, hdecides⟩ := client.act_requests desired version
      (lastNamed listing desired.id) agent
      (agent.respond (client.asks .get listingPath)
        (agent.respond (client.asks .get agentPath) state).2).2
    refine ⟨operation, version, htarget, ?_, fun _ => ⟨_, ?_, hversion⟩,
      fun hlength => ⟨_, _, ?_, hlisting, hdecides ?_⟩⟩
    · simp only [run, hrun, Transcript.requests_prepend]
      exact (List.prefix_append_right_inj [_, _]).2 hprefix
    · simp only [run, hrun]
      rfl
    · simp only [run, hrun]
      rfl
    · intro hnil
      simp [run, hrun, hnil] at hlength

end Client

/-- Whatever the agent replies, a run sends nothing at all or the beginning of one course for the
state that the token should have. The version in it is the one that the first reply reports, and
when it goes beyond the listing, the listing has decided between the courses: a token is created
only if no entry names it, and fetched, updated or removed only if one does. All courses begin with
the same two requests, so a run of at most two requests begins both courses of a token that should
exist. At most one request changes something, and none is sent after that. -/
theorem requests_keep_to_one_course (agent : Agent σ) (state : σ) (connection : Connection)
    (spec : TokenSpec) :
    let client := connection.client
    let run := (reconcile connection spec).transcript agent state
    (∃ problems, validate connection spec = .error problems ∧ run.requests = []) ∨
    ∃ (operation : Operation) (version : Version),
      operation.target = spec.state ∧
      run.requests <+: operation.course connection.headers spec.desired version ∧
      (1 < run.requests.length → ∃ reply,
        run.exchanges[0]? = some (client.asks .get Client.agentPath, reply) ∧
        client.versionOf reply = .ok version) ∧
      (2 < run.requests.length →
        (∃ reply listing, run.exchanges[1]? = some (client.asks .get Client.listingPath, reply) ∧
          client.listingOf reply = .ok listing ∧
          (operation = .create ↔ ∀ record ∈ listing, record.accessor ≠ some spec.id)) ∧
        ∀ other version',
          run.requests <+: other.course connection.headers spec.desired version' →
            other = operation) ∧
      (run.requests.filter Request.isWrite).length ≤ 1 ∧
      ∀ q ∈ run.requests.dropLast, q.isWrite = false := by
  intro client run
  cases hv : validate connection spec with
  | error problems =>
    refine .inl ⟨problems, rfl, ?_⟩
    simp [run, reconcile_of_invalid hv, Transcript.requests]
  | ok configuration =>
    have hrun : run = (client.reconcile spec.desired).transcript agent state := by
      simp only [run, reconcile_of_valid hv, client]
    obtain ⟨operation, version, htarget, hprefix, hversion, hlisting⟩ :=
      client.reconcile_requests spec.desired agent state
    rw [← hrun] at hprefix hversion hlisting
    refine .inr ⟨operation, version, htarget, hprefix, hversion, fun hlength => ⟨?_, ?_⟩,
      length_filter_isWrite_le hprefix, fun q => isWrite_of_mem_dropLast hprefix⟩
    · simp only [lastNamed_eq_none_iff] at hlisting
      exact hlisting hlength
    · exact fun other version' hother => Operation.eq_of_course_prefix hlength hother hprefix

end TokenSync
