import TokenSync.Agent.Script
import TokenSync.Proofs.Settling

/-!
# What a run reports

Against an agent that stores tokens, and makes of what it is sent whatever it likes, a run reports a
change exactly if the token came or went or a managed attribute of it is another one than before.
-/
namespace TokenSync

open Json

/-- An agent may store whatever token it likes. -/
def Rule.any : Rule := ⟨fun _ _ _ => True, fun _ _ _ _ => True⟩

theorem Rule.admits_any (desired : Desired) (version : Version) : Rule.any.Admits desired version :=
  ⟨⟨.bare desired.id, trivial⟩, fun old => ⟨old, trivial⟩⟩

/-- **A run against an agent that stores tokens succeeds, touches no other token, and reports a
change exactly if the token came or went or one of its managed attributes has changed.** -/
theorem changed_iff_managed_differs {σ : Type} {version : Version} {agent : Agent σ}
    {store : σ → Store} {connection : Connection} {spec : TokenSpec} {configuration : Configuration}
    (hvalid : validate connection spec = .ok configuration) {state : σ}
    (hserved : Served Rule.any version agent store (reconcile connection spec).run state) :
    let run := (reconcile connection spec).transcript agent state
    ∃ report, run.result = .ok report ∧
      (∀ id, id ≠ spec.id → store run.state id = store state id) ∧
      (report.changed = true ↔
        (store run.state).managed spec.id ≠ (store state).managed spec.id) ∧
      ((store run.state spec.id).isSome = true ↔ spec.state = .present) ∧
      report.token = (store run.state spec.id).map StoredToken.document := by
  obtain ⟨report, hresult, hsettles⟩ :=
    reconcile_settles hvalid (Rule.admits_any _ _) hserved
  exact ⟨report, hresult, fun id hid => hsettles.other_unchanged hid, hsettles.changed_iff,
    hsettles.isSome_iff, hsettles.token_eq⟩

/-! ## An update by a script -/

/-- A token that is valid everywhere, or in one datacenter only. -/
def StoredToken.sample (isLocal : Bool) : StoredToken "a" where
  entries := [("AccessorID", .string "a"), ("Local", .bool isLocal)]
  ordered := by cases isLocal <;> decide
  record := { TokenRecord.empty with accessor := some "a", isLocal := some isLocal }
  reads := rfl
  named := rfl

/-- The replies of an agent that stores one token, to a client that updates it. -/
def updateScript : List Cue :=
  [⟨"GET", "/agent/self", .answer 200 "\x7b\"Config\":\x7b\"Version\":\"1.8.0\"\x7d\x7d"⟩,
    ⟨"GET", "/acl/tokens", .answer 200 "[\x7b\"AccessorID\":\"a\"\x7d]"⟩,
    ⟨"GET", "/acl/token/a", .answer 200 "\x7b\"Local\":true,\"AccessorID\":\"a\"\x7d"⟩,
    ⟨"PUT", "/acl/token/a", .answer 200 "\x7b\"AccessorID\":\"a\",\"Local\":false\x7d"⟩]

/-- The token changes with the last of the replies. -/
def updateScript.store (script : List Cue) : Store :=
  Function.update Store.empty "a" (some (.sample (script ≠ [])))

theorem updateScript.served : Served Rule.any .nodeIdentitiesSince Agent.scripted updateScript.store
    (({} : Connection).client.reconcile ({ id := "a" } : TokenSpec).desired).run updateScript := by
  have hlists : (store updateScript).Lists [.object [("AccessorID", .string "a")]] :=
    Store.lists_empty.update rfl ⟨List.sublist_append_left _ _, rfl⟩
  refine Client.served_reconcile ?_ rfl ?_ rfl fun found hfound =>
    Client.served_act_update (.sample true) rfl rfl ?_ rfl ?_ hfound
  · exact answers_self _ ⟨rfl, rfl⟩ "1.8.0" (by decide +kernel) rfl _
  · exact answers_listing _ _ ⟨rfl, rfl⟩ ⟨by decide +kernel, by decide +kernel⟩ hlists
  · exact answers_fetch _ _ ⟨rfl, rfl⟩ rfl ⟨by decide +kernel, by decide +kernel⟩
  · exact answers_update _ _ ⟨rfl, rfl⟩ rfl rfl (.sample false) trivial (by decide +kernel)
      (Function.update_idem _ _ _).symm

theorem changed_iff_managed_differs_of_script :
    let run := (reconcile {} { id := "a" }).transcript Agent.scripted updateScript
    validate {} { id := "a" } = .ok ⟨{}, ({ id := "a" } : TokenSpec).desired⟩ ∧
      ∃ report, run.result = .ok report ∧ report.changed = true ∧
        updateScript.store run.state "a" = some (.sample false) := by
  have hvalid : validate {} { id := "a" } = .ok ⟨{}, ({ id := "a" } : TokenSpec).desired⟩ := by
    decide +kernel
  have hserved := updateScript.served
  rw [← reconcile_of_valid hvalid] at hserved
  obtain ⟨report, hresult, -, hchanged, -⟩ := changed_iff_managed_differs hvalid hserved
  have hstate :
      ((reconcile {} { id := "a" }).transcript Agent.scripted updateScript).state = [] := by
    decide +kernel
  refine ⟨hvalid, report, hresult, hchanged.2 ?_, ?_⟩
  · rw [hstate]
    decide +kernel
  · rw [hstate]
    rfl

/-! ## A name that is repeated -/

/-- A listing whose value is that of a listing with one token, but whose text names the identifier
of this token twice. -/
def repeatedListing : String := "[\x7b\"AccessorID\":\"a\",\"AccessorID\":\"a\"\x7d]"

/-- The replies of an agent that stores one token and lists it by such a text. -/
def repeatedScript : List Cue :=
  [⟨"GET", "/agent/self", .answer 200 "\x7b\"Config\":\x7b\"Version\":\"1.8.0\"\x7d\x7d"⟩,
    ⟨"GET", "/acl/tokens", .answer 200 repeatedListing⟩,
    ⟨"GET", "/acl/token/a", .answer 200 "\x7b\"AccessorID\":\"a\"\x7d"⟩,
    ⟨"PUT", "/acl/token/a", .answer 200 "\x7b\"AccessorID\":\"a\"\x7d"⟩]

/-- It is not enough that the text of a listing has the value of a listing of the store: a name that
is repeated in it ends the run. -/
theorem repeated_name_ends_run :
    let token := StoredToken.bare "a"
    validate {} { id := "a" } = .ok ⟨{}, ({ id := "a" } : TokenSpec).desired⟩ ∧
      Json.ofText repeatedListing = .ok (.array [token.document]) ∧
      Store.Lists (Function.update Store.empty "a" (some token)) [token.document] ∧
      ((reconcile {} { id := "a" }).transcript Agent.scripted repeatedScript).result =
        .error (.document Client.listingPath (.mismatch (.duplicateField "AccessorID"))) := by
  refine ⟨by decide +kernel, by decide +kernel, ?_, by decide +kernel⟩
  exact Store.lists_empty.update rfl ⟨List.Sublist.refl _, rfl⟩

end TokenSync
