import Mathlib
import TokenSync.Proofs.Blocks

/-!
# Settings in files

A connection and a description are filled in from what their blocks say, and a file without a block
for the connection is read as one in which that block says nothing but defaults. Two files in which
more or less is written out are read as the same configuration as long as there is room for the
aliases, and how much room there is depends on how much is written.
-/
namespace TokenSync

open Yaml Node ConfigFile

variable {τ σ : Type} {targets : Targets} {document : Document}

/-! ## Settings of blocks -/

/-- How plain data of settings is read from the nodes of a document. -/
def SettingReaders.inFile (document : Document) : SettingReaders Numbered where
  text node text := document.read (readText node) = some text
  flag node flag := document.read (readBool node) = some flag
  port node port := document.read (portField.read node) = some port
  duration node duration := document.read (timeoutMsField.read node) = some duration
  secret node secret := document.read (readSecret node) = some secret
  presence node state := document.read (stateField.read node) = some state
  elements node elements :=
    document.read (readList (readValue (depthLimit - 3)) node) = some elements

theorem rightUnique_read_eq_some (document : Document) (read : Numbered → Reading τ) :
    Relator.RightUnique fun node content => document.read (read node) = some content := by
  intro node content other h ho
  exact Option.some.inj (h.symm.trans ho)

theorem SettingReaders.definite_inFile (document : Document) : (inFile document).Definite where
  text := rightUnique_read_eq_some document _
  flag := rightUnique_read_eq_some document _
  port := rightUnique_read_eq_some document _
  duration := rightUnique_read_eq_some document _
  secret := rightUnique_read_eq_some document _
  presence := rightUnique_read_eq_some document _
  elements := rightUnique_read_eq_some document _

/-- A block gives a record: it names each setting once at most, and what is named is read from what
stands there. -/
def BlockGives (document : Document) (settings : List (Setting Numbered σ)) (node : Numbered)
    (record : σ) : Prop :=
  ∃ named price, Says document.targets node named price ∧ named.Once (settingNames settings) ∧
    GivenBy settings named record

/-- Settings are read from blocks with their defaults. What is read is what the block gives, and
without anchored nodes whatever a block gives is read. Elsewhere a record costs what it takes to
find out what its block says, and what its settings cost. Writing out defaults changes neither what
is read nor how many aliases are followed for it. -/
structure ReadsBlocks (read : Numbered → Reading σ) (fields : List (BlockSetting σ))
    (settings : Document → List (Setting Numbered σ)) (standard : σ)
    (spelledOut : Keyed Numbered) : Prop where
  gives {document : Document} {node : Numbered} {record : σ} :
    document.read (read node) = some record → BlockGives document (settings document) node record
  reads {document : Document} : document.targets = [] → ∀ node record,
    document.read (read node) = some record ↔ BlockGives document (settings document) node record
  hasDefaults {document : Document} : document.targets = [] → HasDefaults (fieldNames fields)
    (fun named record => document.read (read (mappingOf named)) = some record) standard spelledOut
  costs {targets : Targets} {node : Numbered} {record : σ} {price : Nat} :
    Costs targets (read node) record price ↔ ∃ named first second,
      Says targets node named first ∧ named.Once (fieldNames fields) ∧
        CostsRecord targets named record fields second ∧ first + second = price
  empty (targets : Targets) (p : Properties) : Costs targets (read (.mapping p [])) standard 0
  spelled (targets : Targets) : ∀ entry ∈ spelledOut, SaysDefault targets fields entry.1 entry.2
  unknown (targets : Targets) {name : String} : name ∉ fieldNames fields →
    ∀ part, SaysDefault targets fields name part
  writtenOut {targets : Targets} {node other : Numbered} : WrittenOut targets fields node other →
    Alike targets (read node) (read other)

/-- What a field gives is the setting that is read from it. -/
theorem read_get_eq_some_iff {field : FieldSpec τ} {parts : Keyed Numbered} {fallback content : τ}
    (h : field.fallback = some fallback) :
    document.read (field.get parts) = some content ↔
      HasSetting (fun part content => document.read (field.read part) = some content) parts
        field.name fallback content := by
  unfold FieldSpec.get HasSetting Keyed.get?
  rw [h]
  cases parts.lookup field.name with
  | none =>
    change some fallback = some content ↔ content = fallback
    rw [Option.some.injEq, eq_comm]
  | some part => rfl

theorem read_get_required_eq_some_iff {field : FieldSpec τ} {parts : Keyed Numbered} {content : τ}
    (h : field.fallback = none) :
    document.read (field.get parts) = some content ↔ ∃ part,
      parts.get? field.name = some part ∧ document.read (field.read part) = some content := by
  unfold FieldSpec.get Keyed.get?
  rw [h]
  cases parts.lookup field.name with
  | none => exact iff_of_false (fun hread => nomatch hread) fun ⟨_, hpart, _⟩ => nomatch hpart
  | some part => simp

section

variable {read : Numbered → Reading σ} {fields : List (BlockSetting σ)}
  {settings : Document → List (Setting Numbered σ)} {standard : σ} {spelledOut : Keyed Numbered}

theorem readsBlocks (h : ReadsRecord read fields) (hnodup : (fieldNames fields).Nodup)
    (hconsists : ∀ document, ConsistsOf (settings document) standard)
    (hnames : ∀ document, settingNames (settings document) = fieldNames fields)
    (hgiven : ∀ document named record, (∀ setting ∈ fields,
      document.read (setting.field.get named) = some (setting.content record)) ↔
        GivenBy (settings document) named record)
    (hempty : ∀ targets p, Costs targets (read (.mapping p [])) standard 0)
    (hspelled : ∀ targets, List.Forall₂ (SpellsDefault targets) fields spelledOut) :
    ReadsBlocks read fields settings standard spelledOut where
  gives {document node record} hread := by
    obtain ⟨named, price, hsaid, honce, hrecord⟩ := h.says_of_read hread
    rw [← hnames document] at honce
    exact ⟨named, price, hsaid, honce, (hgiven document named record).1 hrecord⟩
  reads {document} htargets node record := by
    rw [h.read_iff htargets]
    simp only [BlockGives, hnames, hgiven]
  hasDefaults {document} htargets := by
    rw [← hnames document]
    refine ((hconsists document).fillsIn fun named record => ?_).hasDefaults ?_ ?_ ?_
    · rw [h.read_iff htargets]
      simp only [says_mappingOf, hnames, hgiven, and_assoc, exists_and_left, exists_eq_left]
    · rw [hnames]
      exact hnodup
    · rw [hnames, names_of_spellsDefault (hspelled [])]
    · -- A default alone is one that is written out in an empty mapping.
      intro entry hentry
      have := h.priced
      refine read_eq_some_iff.2 ⟨0, ?_, Nat.zero_le _⟩
      have hadd : WrittenOut document.targets fields (.mapping ⟨none, none⟩ [])
          (mappingOf [entry]) :=
        .add (costs_readText_plain.2 ⟨rfl, rfl⟩) (fun _ => List.forall_mem_nil _)
          (saysDefault_of_spellsDefault hnodup (hspelled _) entry hentry)
      exact (h.alike_of_writtenOut hadd standard 0).1 (hempty _ _)
  costs := h.costs_block_iff
  empty := hempty
  spelled targets := saysDefault_of_spellsDefault hnodup (hspelled targets)
  unknown targets {name} hname part setting hsetting heq :=
    absurd (heq ▸ List.mem_map_of_mem hsetting) hname
  writtenOut hwritten := h.alike_of_writtenOut hwritten

end

/-! ## Connections and descriptions -/

/-- The settings of a connection and the fields they are read from. -/
def ConfigFile.connectionFields : List (BlockSetting Connection) :=
  [⟨hostField, Connection.host, priced_hostField⟩,
    ⟨portField, Connection.port, priced_portField⟩,
    ⟨schemeField, Connection.scheme, priced_schemeField⟩,
    ⟨validateTlsField, Connection.validateTls, priced_validateTlsField⟩,
    ⟨managementTokenField, Connection.managementToken, priced_managementTokenField⟩,
    ⟨timeoutMsField, Connection.timeoutMs, priced_timeoutMsField⟩]

/-- The settings of a token's description and the fields they are read from. -/
def ConfigFile.specFields : List (BlockSetting TokenSpec) :=
  [⟨idField, TokenSpec.id, priced_idField⟩,
    ⟨descriptionField, TokenSpec.description, priced_descriptionField⟩,
    ⟨localField, TokenSpec.isLocal, priced_localField⟩,
    ⟨secretField, TokenSpec.secret, priced_secretField⟩,
    ⟨stateField, TokenSpec.state, priced_stateField⟩,
    ⟨listField "policies", TokenSpec.policies, priced_listField _⟩,
    ⟨listField "roles", TokenSpec.roles, priced_listField _⟩,
    ⟨listField "service_identities", TokenSpec.serviceIdentities, priced_listField _⟩,
    ⟨listField "node_identities", TokenSpec.nodeIdentities, priced_listField _⟩]

/-- The standard connection, spelled out in a file. -/
def Connection.spelledOutInFile : Keyed Numbered :=
  [("host", plain "localhost"), ("port", plain "8500"), ("scheme", plain "http"),
    ("validate_tls", plain "true"), ("management_token", plain "null"),
    ("timeout_ms", plain "5000")]

/-- The standard description of a token, spelled out in a file. -/
def TokenSpec.spelledOutInFile : Keyed Numbered :=
  [("id", plain ""), ("description", plain ""), ("local", plain "false"), ("secret", plain "null"),
    ("state", plain "present"), ("policies", .sequence ⟨none, none⟩ []),
    ("roles", .sequence ⟨none, none⟩ []), ("service_identities", .sequence ⟨none, none⟩ []),
    ("node_identities", .sequence ⟨none, none⟩ [])]

theorem ConfigFile.readsRecord_connection : ReadsRecord readConnection connectionFields := by
  refine readsRecord_of_next (fun _ => rfl) fun {_ _ record _} => ?_
  refine costsRecord_cons_iff fun host _ => costsRecord_cons_iff fun port _ =>
    costsRecord_cons_iff fun scheme _ => costsRecord_cons_iff fun flag _ =>
    costsRecord_cons_iff fun token _ => costsRecord_cons_iff fun duration _ => ?_
  rw [costs_pure]
  cases record
  simp [CostsRecord, and_assoc]

theorem ConfigFile.readsRecord_spec : ReadsRecord readSpec specFields := by
  refine readsRecord_of_next (fun _ => rfl) fun {_ _ record _} => ?_
  refine costsRecord_cons_iff fun id _ => costsRecord_cons_iff fun description _ =>
    costsRecord_cons_iff fun flag _ => costsRecord_cons_iff fun secret _ =>
    costsRecord_cons_iff fun state _ => costsRecord_cons_iff fun policies _ =>
    costsRecord_cons_iff fun roles _ => costsRecord_cons_iff fun services _ =>
    costsRecord_cons_iff fun nodes _ => ?_
  rw [costs_pure]
  cases record
  simp [CostsRecord, and_assoc]

theorem ConfigFile.connection_givenBy_iff {named : Keyed Numbered} {record : Connection} :
    (∀ setting ∈ connectionFields,
      document.read (setting.field.get named) = some (setting.content record)) ↔
        GivenBy (Connection.settings (.inFile document)) named record := by
  simp only [GivenBy, Connection.settings, connectionFields, List.forall_mem_cons]
  exact and_congr (read_get_eq_some_iff rfl) (and_congr (read_get_eq_some_iff rfl)
    (and_congr (read_get_eq_some_iff rfl) (and_congr (read_get_eq_some_iff rfl)
    (and_congr (read_get_eq_some_iff rfl) (and_congr (read_get_eq_some_iff rfl) (by simp))))))

theorem ConfigFile.spec_givenBy_iff {named : Keyed Numbered} {record : TokenSpec} :
    (∀ setting ∈ specFields,
      document.read (setting.field.get named) = some (setting.content record)) ↔
        GivenBy (TokenSpec.settings (.inFile document)) named record := by
  simp only [GivenBy, TokenSpec.settings, specFields, List.forall_mem_cons]
  exact and_congr (read_get_eq_some_iff rfl) (and_congr (read_get_eq_some_iff rfl)
    (and_congr (read_get_eq_some_iff rfl) (and_congr (read_get_eq_some_iff rfl)
    (and_congr (read_get_eq_some_iff rfl) (and_congr (read_get_eq_some_iff rfl)
    (and_congr (read_get_eq_some_iff rfl) (and_congr (read_get_eq_some_iff rfl)
    (and_congr (read_get_eq_some_iff rfl) (by simp)))))))))

theorem ConfigFile.readsBlocks_connection : ReadsBlocks readConnection connectionFields
    (fun document => Connection.settings (.inFile document)) {} Connection.spelledOutInFile :=
  readsBlocks readsRecord_connection (by decide)
    (fun document => Connection.consistsOf (SettingReaders.definite_inFile document))
    (fun _ => rfl) (fun _ _ _ => connection_givenBy_iff) (fun _ _ => costs_zero fun _ _ => rfl)
    fun _ => .cons ⟨rfl, _, rfl, costs_zero fun _ _ => rfl⟩
      (.cons ⟨rfl, _, rfl, costs_zero fun _ _ => rfl⟩
      (.cons ⟨rfl, _, rfl, costs_zero fun _ _ => rfl⟩
      (.cons ⟨rfl, _, rfl, costs_zero fun _ _ => rfl⟩
      (.cons ⟨rfl, _, rfl, costs_zero fun _ _ => rfl⟩
      (.cons ⟨rfl, _, rfl, costs_zero fun _ _ => rfl⟩ .nil)))))

theorem ConfigFile.readsBlocks_spec : ReadsBlocks readSpec specFields
    (fun document => TokenSpec.settings (.inFile document)) (.ofId "")
      TokenSpec.spelledOutInFile :=
  readsBlocks readsRecord_spec (by decide)
    (fun document => TokenSpec.consistsOf (SettingReaders.definite_inFile document))
    (fun _ => rfl) (fun _ _ _ => spec_givenBy_iff) (fun _ _ => costs_zero fun _ _ => rfl)
    fun _ => .cons ⟨rfl, _, rfl, costs_zero fun _ _ => rfl⟩
      (.cons ⟨rfl, _, rfl, costs_zero fun _ _ => rfl⟩
      (.cons ⟨rfl, _, rfl, costs_zero fun _ _ => rfl⟩
      (.cons ⟨rfl, _, rfl, costs_zero fun _ _ => rfl⟩
      (.cons ⟨rfl, _, rfl, costs_zero fun _ _ => rfl⟩
      (.cons ⟨rfl, _, rfl, costs_zero fun _ _ => rfl⟩
      (.cons ⟨rfl, _, rfl, costs_zero fun _ _ => rfl⟩
      (.cons ⟨rfl, _, rfl, costs_zero fun _ _ => rfl⟩
      (.cons ⟨rfl, _, rfl, costs_zero fun _ _ => rfl⟩ .nil))))))))

/-! ## Files -/

namespace ConfigFile

/-- The blocks of a file and the fields they are read from. -/
def fields : List (BlockSetting ConfigFile) :=
  [⟨connectionField, connection, priced_connectionField⟩,
    ⟨loggingField, logging, priced_loggingField⟩,
    ⟨tokenField, token, priced_tokenField⟩]

/-- What is said under the names of the blocks makes a file: the block for the token has to be
there, and the one for the connection and the one for logging may be missing. -/
structure SaidBy (document : Document) (named : Keyed Numbered) (file : ConfigFile) : Prop where
  connection : HasSetting
    (fun part connection => document.read (readConnection part) = some connection) named
      "connection" {} file.connection
  logging : HasSetting
    (fun part logging => document.read (readOptional readLogging part) = some logging) named
      "logging" none file.logging
  token : ∃ part, named.get? "token" = some part ∧ document.read (readSpec part) = some file.token

/-- A document gives a file: each block is there once at most, and makes its part of the file. -/
def GivenIn (document : Document) (file : ConfigFile) : Prop :=
  ∃ named price, Says document.targets document.root named price ∧
    named.Once (fieldNames fields) ∧ SaidBy document named file

theorem readsRecord : ReadsRecord ConfigFile.read fields := by
  refine readsRecord_of_next (fun _ => rfl) fun {_ _ record _} => ?_
  refine costsRecord_cons_iff fun connection _ => costsRecord_cons_iff fun logging _ =>
    costsRecord_cons_iff fun token _ => ?_
  rw [costs_pure]
  cases record
  simp [CostsRecord, and_assoc]

theorem saidBy_iff {named : Keyed Numbered} {file : ConfigFile} :
    (∀ setting ∈ fields,
      document.read (setting.field.get named) = some (setting.content file)) ↔
        SaidBy document named file := by
  simp only [fields, List.forall_mem_cons]
  constructor
  · intro ⟨hconnection, hlogging, htoken, _⟩
    exact ⟨(read_get_eq_some_iff rfl).1 hconnection, (read_get_eq_some_iff rfl).1 hlogging,
      (read_get_required_eq_some_iff rfl).1 htoken⟩
  · intro h
    exact ⟨(read_get_eq_some_iff rfl).2 h.connection, (read_get_eq_some_iff rfl).2 h.logging,
      (read_get_required_eq_some_iff rfl).2 h.token, List.forall_mem_nil _⟩

section

variable {text : String} {file : ConfigFile}

theorem ofText?_eq_read (h : Document.ofText? text = some document) :
    ofText? text = document.read (ConfigFile.read document.root) := by
  unfold ofText?
  rw [h]
  rfl

theorem weight_of_ofText? (h : Document.ofText? text = some document) :
    document.weight = document.root.weight := by
  obtain ⟨tokens, -, h⟩ := Option.bind_eq_some_iff.1 h
  obtain ⟨named, -, h⟩ := Option.bind_eq_some_iff.1 h
  obtain ⟨numbered, -, h⟩ := Option.bind_eq_some_iff.1 h
  cases h
  rfl

theorem givenIn_of_ofText? (h : ofText? text = some file) :
    ∃ document, Document.ofText? text = some document ∧ GivenIn document file := by
  obtain ⟨document, hdocument, hread⟩ := Option.bind_eq_some_iff.1 h
  obtain ⟨named, price, hsaid, honce, hsettings⟩ := readsRecord.says_of_read hread
  exact ⟨document, hdocument, named, price, hsaid, honce, saidBy_iff.1 hsettings⟩

theorem ofText?_eq_some_iff_givenIn (h : Document.ofText? text = some document)
    (htargets : document.targets = []) : ofText? text = some file ↔ GivenIn document file := by
  rw [ofText?_eq_read h, readsRecord.read_iff htargets]
  simp only [saidBy_iff, GivenIn]

end

section

variable {text other : String} {document further : Document}

/-- What is read from the longer of two files is read from the shorter one if there is room for the
aliases that are followed. -/
theorem ofText?_eq_some_iff_of_writtenOut (h : Document.ofText? text = some document)
    (htargets : further.targets = document.targets)
    (hwritten : WrittenOut document.targets fields document.root further.root) {file : ConfigFile}
    {followed : Nat}
    (hread : ConfigFile.read further.root further 0 = some (file, followed)) :
    ofText? text = some file ↔ followed ≤ document.weight * 100 := by
  have hcosts := (run_eq_some_iff.1 hread).1
  rw [htargets] at hcosts
  have hfile := (readsRecord.alike_of_writtenOut hwritten file followed).2 hcosts
  rw [ofText?_eq_read h, read_eq_some_iff]
  constructor
  · rintro ⟨price, hprice, hroom⟩
    rwa [(hfile.unique hprice).2] at hroom
  · intro hroom
    exact ⟨followed, hfile, hroom⟩

/-- **Writing out defaults never loses a file**: there is room for more aliases only. -/
theorem ofText?_of_writtenOut (h : Document.ofText? text = some document)
    (hother : Document.ofText? other = some further)
    (htargets : further.targets = document.targets)
    (hwritten : WrittenOut document.targets fields document.root further.root)
    {file : ConfigFile} (hfile : ofText? text = some file) : ofText? other = some file := by
  have hweight : document.weight ≤ further.weight := by
    rw [weight_of_ofText? h, weight_of_ofText? hother]
    exact hwritten.weight_le
  rw [ofText?_eq_read h, read_eq_some_iff] at hfile
  obtain ⟨price, hprice, hroom⟩ := hfile
  rw [ofText?_eq_read hother, read_eq_some_iff, htargets]
  refine ⟨price, (readsRecord.alike_of_writtenOut hwritten file price).1 hprice, ?_⟩
  exact Nat.le_trans hroom (Nat.mul_le_mul_right 100 hweight)

/-- Without anchored nodes there is room for everything. -/
theorem ofText?_eq_of_writtenOut (h : Document.ofText? text = some document)
    (hother : Document.ofText? other = some further) (htargets : document.targets = [])
    (hfurther : further.targets = []) (hwritten : WrittenOut [] fields document.root further.root) :
    ofText? other = ofText? text := by
  rw [ofText?_eq_read h, ofText?_eq_read hother]
  ext file
  rw [read_eq_some_iff_of_free htargets, read_eq_some_iff_of_free hfurther]
  exact (readsRecord.alike_of_writtenOut hwritten file 0).symm

end

/-- Files are read with their defaults, in the blocks for the connection and the token as well as
from block to block. What is read is what the document gives, and without anchored nodes whatever a
document gives is read. Elsewhere it is read if the document has room for what it costs.

A block for the connection that is read as the standard one at no price is a default, and more may
be written out in the blocks for the connection and the token. Of two documents with the same
anchored nodes in which more or less is written out, the longer one is read as the shorter one is,
and the shorter one as the longer one if it has room for the aliases that are followed there.
Without anchored nodes they are read as the same file or not at all. -/
structure ReadsFiles : Prop where
  connection : ReadsBlocks readConnection connectionFields
    (fun document => Connection.settings (.inFile document)) {} Connection.spelledOutInFile
  token : ReadsBlocks readSpec specFields
    (fun document => TokenSpec.settings (.inFile document)) (.ofId "") TokenSpec.spelledOutInFile
  nothing (targets : Targets) (p : Properties) :
    Costs targets (readConnection (.scalar p [] .plain)) {} 0
  gives {text : String} {file : ConfigFile} : ofText? text = some file →
    ∃ document, Document.ofText? text = some document ∧ GivenIn document file
  reads {text : String} {document : Document} : Document.ofText? text = some document →
    document.targets = [] → ∀ file, ofText? text = some file ↔ GivenIn document file
  costs {text : String} {document : Document} : Document.ofText? text = some document →
    ∀ file, ofText? text = some file ↔ ∃ price,
      Costs document.targets (ConfigFile.read document.root) file price ∧
        price ≤ document.weight * 100
  absent {targets : Targets} {part : Numbered} : Costs targets (readConnection part) {} 0 →
    SaysDefault targets fields "connection" part
  unknown (targets : Targets) {name : String} : name ∉ fieldNames fields →
    ∀ part, SaysDefault targets fields name part
  inConnection {targets : Targets} {p : Properties} {key part other : Numbered}
    {entries : List (Numbered × Numbered)} {price : Nat} :
    Costs targets (readText key) "connection" price →
      WrittenOut targets connectionFields part other → WrittenOut targets fields
        (.mapping p ((key, part) :: entries)) (.mapping p ((key, other) :: entries))
  inToken {targets : Targets} {p : Properties} {key part other : Numbered}
    {entries : List (Numbered × Numbered)} {price : Nat} :
    Costs targets (readText key) "token" price →
      WrittenOut targets specFields part other → WrittenOut targets fields
        (.mapping p ((key, part) :: entries)) (.mapping p ((key, other) :: entries))
  kept {text other : String} {document further : Document} :
    Document.ofText? text = some document → Document.ofText? other = some further →
      further.targets = document.targets →
      WrittenOut document.targets fields document.root further.root →
      ∀ file, ofText? text = some file → ofText? other = some file
  room {text other : String} {document further : Document} :
    Document.ofText? text = some document → Document.ofText? other = some further →
      further.targets = document.targets →
      WrittenOut document.targets fields document.root further.root →
      ∀ file followed, ConfigFile.read further.root further 0 = some (file, followed) →
        (ofText? text = some file ↔ followed ≤ document.weight * 100)
  same {text other : String} {document further : Document} :
    Document.ofText? text = some document → Document.ofText? other = some further →
      document.targets = [] → further.targets = [] →
      WrittenOut [] fields document.root further.root → ofText? other = ofText? text

theorem readsFiles : ReadsFiles where
  connection := readsBlocks_connection
  token := readsBlocks_spec
  nothing _ _ := costs_zero fun _ _ => rfl
  gives := givenIn_of_ofText?
  reads h htargets _ := ofText?_eq_some_iff_givenIn h htargets
  costs h _ := by rw [ofText?_eq_read h, read_eq_some_iff]
  absent {targets part} hpart := by
    simp only [SaysDefault, fields, List.forall_mem_cons]
    exact ⟨fun _ => ⟨{}, rfl, hpart⟩, nofun, nofun, List.forall_mem_nil _⟩
  unknown targets {name} hname part setting hsetting heq :=
    absurd (heq ▸ List.mem_map_of_mem hsetting) hname
  inConnection hname hwritten := by
    refine .exchange_of_name hname ?_ hwritten.weight_le
    simp only [AlikeUnder, fields, List.forall_mem_cons]
    exact ⟨fun _ => readsRecord_connection.alike_of_writtenOut hwritten, nofun, nofun,
      List.forall_mem_nil _⟩
  inToken hname hwritten := by
    refine .exchange_of_name hname ?_ hwritten.weight_le
    simp only [AlikeUnder, fields, List.forall_mem_cons]
    exact ⟨nofun, nofun, fun _ => readsRecord_spec.alike_of_writtenOut hwritten,
      List.forall_mem_nil _⟩
  kept h hother htargets hwritten _ := ofText?_of_writtenOut h hother htargets hwritten
  room h _ htargets hwritten _ _ := ofText?_eq_some_iff_of_writtenOut h htargets hwritten
  same := ofText?_eq_of_writtenOut

end ConfigFile

/-- A file whose list of policies takes 4999 aliases, more than 100 for each of its 47 parts. -/
def aliasedFile (further : String) : String :=
  "token:\n  policies: [&d [&c [&b [&a [],*a,*a,*a,*a,*a,*a,*a,*a,*a]" ++
    ",*b,*b,*b,*b,*b,*b,*b,*b,*b],*c,*c,*c,*c,*c,*c,*c,*c,*c],*d,*d,*d,*d]\n" ++ further

end TokenSync
