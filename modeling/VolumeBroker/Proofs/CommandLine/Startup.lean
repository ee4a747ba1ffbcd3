import VolumeBroker.Api.Demand
import VolumeBroker.CommandLine.Outcome
import VolumeBroker.Proofs.Api.Responses
import VolumeBroker.Proofs.Catalog.Legible
import VolumeBroker.Proofs.Catalog.SpecFile
import VolumeBroker.Proofs.Dict
import VolumeBroker.Proofs.Session.Restart
import VolumeBroker.Proofs.Text.ByteOrder
/-!
# What the checks tell about a start

An operator can check a specification (`catalog`) and a data directory (`records`) before a broker is
started on both (`serve`). `Command.serve_foretold` says that the checks are worth it: a start fails
exactly if one of them does, with the failure of that check as its cause and the specification first;
what `catalog` shows is what the broker publishes, and what `records` lists is what it starts on. None of
the three leaves other files behind.

The commands reach their files in different ways, so each is first reduced to the same two questions
(`run_catalog`, `run_records`, `run_serve`): what becomes of the registry of the specification, and what
becomes of opening the record file. What stands at the two paths is enough to answer them
(`outcome_congr`), so a check still tells something when the start comes later.

What is printed is described without the program. `Lists` spells out the line of each record, and a record
set has one listing only (`Lists.unique`); there is never a line for an error, because the ids that a table
goes through are those of the store that it asks (`tabulates_table`). A store has them in the order of their
characters, which is the order of their bytes. `ShowsCatalog` asks for a text that spells the document which
the broker sends, and there is one, because a specification that has been loaded holds no number beyond the
range of text (`Registry.every_catalog`).
-/

namespace VolumeBroker

/-! ### Reading a specification and a record file -/

section Files

variable {files files' : FileSystem} {path : String}

theorem Registry.ofFile_result (files : FileSystem) (path : String) (connect : Connector) :
    (ofFile files path connect).result
      = match SpecFile.load files path with
        | .ok specs => (build specs connect).result
        | .error e => .error e := by
  unfold ofFile
  cases SpecFile.load files path <;> rfl

/-- A specification has a registry exactly if its entries are acceptable. -/
theorem Registry.ofFile_ok_iff {connect : Connector} :
    (∃ registry, (ofFile files path connect).result = .ok registry) ↔
      ∃ specs, SpecFile.load files path = .ok specs ∧ Acceptable (fun _ => connect) specs := by
  rw [ofFile_result]
  cases SpecFile.load files path with
  | error e => simp
  | ok specs =>
    dsimp only
    constructor
    · rintro ⟨registry, hbuilt⟩
      obtain ⟨hsome, hall, -⟩ := of_buildEach_ok hbuilt
      obtain ⟨hcomplete, hdistinct, hconnected⟩ := allPass_iff.1 hall
      exact ⟨specs, rfl, hsome, hcomplete, hdistinct, hconnected⟩
    · rintro ⟨_, ⟨⟩, hsome, hcomplete, hdistinct, hconnected⟩
      have hall := allPass_iff.2 ⟨hcomplete, hdistinct, hconnected⟩
      exact ⟨_, congrArg Construction.result (buildEach_of_allPass hsome hall)⟩

theorem Registry.ofFile_congr (h : files'.node? path = files.node? path) (connect : Connector) :
    ofFile files' path connect = ofFile files path connect := by
  unfold ofFile SpecFile.load FileSystem.readText?
  rw [h]

/-- A broker starts on the store that opening its record file yields. -/
theorem Broker.start_eq_openFile (registry : Registry) (path : String) (files : FileSystem) :
    start registry (.new (.file path)) files
      = match Store.openFile path files with
        | .ok store => .ok ⟨registry, .empty, store⟩
        | .error e => .error (.store "restore" e) := by
  unfold start Store.openFile
  cases (Store.new (.file path)).restore files <;> rfl

theorem Store.openFile_ok_iff {store : Store} : openFile path files = .ok store ↔
    ∃ records, files.Restores path records ∧ store = ⟨.file path, records, .none⟩ := by
  have hstart : Broker.start .empty (.new (.file path)) files = .ok ⟨.empty, .empty, store⟩
      ↔ openFile path files = .ok store := by
    rw [Broker.start_eq_openFile]
    cases openFile path files <;> simp
  -- so it opens exactly if a broker starts on it, whichever its registry is
  rw [← hstart, Broker.start_ok_iff]
  simp

theorem Store.openFile_congr (h : files'.node? path = files.node? path) :
    openFile path files' = openFile path files := by
  have hopen (fs : FileSystem) : openFile path fs = (new (.file path)).restoreFile fs path := rfl
  -- the one look decides whether there is a file and what it holds
  rw [hopen, hopen]
  unfold restoreFile FileSystem.pathExists FileSystem.readText?
  rw [h]

end Files

/-- A look at files gives the view of them and leaves them behind. -/
theorem FileWork.run_look {α β : Type} (view : FileSystem → α) (rest : α → FileWork β)
    (files : FileSystem) : (look view >>= rest).run files = (rest (view files)).run files := rfl

/-- The command has failed. -/
def Outcome.Fails (outcome : Outcome) : Prop := ∃ failure, outcome = .failed failure

@[simp] theorem Outcome.fails_failed (failure : Failure) : (failed failure).Fails := ⟨failure, rfl⟩

@[simp] theorem Outcome.not_fails_done (output : String) : ¬ (done output).Fails := nofun

@[simp] theorem Outcome.not_fails_ready (broker : Broker) (address : String) :
    ¬ (ready broker address).Fails := nofun

namespace Command

/-! ### Listings -/

section Listings

variable {ρ : Type} {remark heading : String} {line : String → ρ → String} {records : Dict ρ}

/-- **A text tabulates records.** Under a heading it has one line for each record, and the lines are in the
order of the bytes of the ids. Without records it is a remark. -/
inductive Tabulates (remark heading : String) (line : String → ρ → String) (records : Dict ρ) :
    String → Prop where
  | remark (hnone : ∀ id, records.get? id = none) : Tabulates remark heading line records (remark ++ "\n")
  | lines {entries : List (String × ρ)} (hsome : entries ≠ [])
    (hentries : ∀ id record, (id, record) ∈ entries ↔ records.get? id = some record)
    (horder : entries.Pairwise fun a b => Utf8.bytes a.1 < Utf8.bytes b.1) :
    Tabulates remark heading line records
      (heading ++ "\n" ++ String.join (entries.map fun e => line e.1 e.2))

/-- A table of all ids tabulates the records, if the record of each id is retrieved. -/
theorem tabulates_table {headings : List String} {cells : ρ → List String}
    {retrieve : String → Except StoreError ρ} (hheading : row headings = heading ++ "\n")
    (hline : ∀ id record, row (id :: cells record) = line id record)
    (hretrieve : ∀ id record, records.get? id = some record → retrieve id = .ok record) :
    Tabulates remark heading line records
      (table remark headings records.keys fun id => (retrieve id).map cells) := by
  unfold table
  -- the remark stands for a table without lines
  by_cases hempty : records.entries = []
  · rw [if_pos (by simp [Dict.keys, hempty])]
    refine .remark fun id => ?_
    rw [Dict.get?, hempty]
    rfl
  · rw [if_neg (by simp [Dict.keys, hempty]), hheading]
    -- the line of an id is the line of its entry
    have hlines : records.keys.map (fun id => entryRow id ((retrieve id).map cells))
        = records.entries.map fun e => line e.1 e.2 := by
      rw [Dict.keys, List.map_map]
      refine List.map_congr_left fun e he => ?_
      have hfound := hretrieve e.1 e.2 (Dict.get?_eq_some_iff.2 he)
      rw [Function.comp_apply, hfound]
      exact hline e.1 e.2
    rw [hlines]
    exact .lines hempty (fun _ _ => Dict.get?_eq_some_iff.symm)
      (records.sorted.imp Utf8.bytes_lt_iff.2)

/-- The records and their order leave no choice of entries. -/
theorem entries_eq_of_order {entries : List (String × ρ)}
    (hentries : ∀ id record, (id, record) ∈ entries ↔ records.get? id = some record)
    (horder : entries.Pairwise fun a b => Utf8.bytes a.1 < Utf8.bytes b.1) :
    entries = records.entries := by
  -- entries in this order make a dictionary, and it has the look-ups of the records
  let listed : Dict ρ := ⟨entries, horder.imp Utf8.bytes_lt_iff.1⟩
  have hsame : listed = records := Dict.ext_get? fun id => Option.ext fun record =>
    Dict.get?_eq_some_iff.trans (hentries id record)
  exact congrArg Dict.entries hsame

/-- Records have one table only. -/
theorem Tabulates.unique {text text' : String} (h : Tabulates remark heading line records text)
    (h' : Tabulates remark heading line records text') : text' = text := by
  -- there is a line exactly if there is a record
  have hsome : ∀ {entries : List (String × ρ)}, entries ≠ [] →
      (∀ id record, (id, record) ∈ entries ↔ records.get? id = some record) →
      ¬ ∀ id, records.get? id = none := by
    intro entries hne hentries hnone
    obtain ⟨⟨id, record⟩, hmem⟩ := List.exists_mem_of_ne_nil entries hne
    cases (hnone id).symm.trans ((hentries id record).1 hmem)
  cases h with
  | remark hnone =>
    cases h' with
    | remark _ => rfl
    | lines hne hentries _ => exact absurd hnone (hsome hne hentries)
  | lines hne hentries horder =>
    cases h' with
    | remark hnone => exact absurd hnone (hsome hne hentries)
    | lines _ hentries' horder' =>
      rw [entries_eq_of_order hentries horder, entries_eq_of_order hentries' horder']

end Listings

/-- **A text lists a record set**: a line for each instance, with the id, the service and the plan between
tabs, and then a line for each binding, with the id, the service and the application. -/
def Lists (records : RecordSet) (text : String) : Prop :=
  ∃ instances bindings,
    Tabulates "(no instances)" "Instance\tService\tPlan"
      (fun id record => id ++ "\t" ++ record.serviceId ++ "\t" ++ record.planId ++ "\n")
      records.instances instances ∧
    Tabulates "(no bindings)" "Binding\tService\tApp"
      (fun id record => id ++ "\t" ++ record.serviceId ++ "\t" ++ record.appGuid ++ "\n")
      records.bindings bindings ∧
    text = instances ++ bindings

/-- A record set has one listing only. -/
theorem Lists.unique {records : RecordSet} {text text' : String} (h : Lists records text)
    (h' : Lists records text') : text' = text := by
  obtain ⟨instances, bindings, hinstances, hbindings, rfl⟩ := h
  obtain ⟨instances', bindings', hinstances', hbindings', rfl⟩ := h'
  rw [hinstances.unique hinstances', hbindings.unique hbindings']

/-- The tables of a store list its records. -/
theorem lists_tables (medium : Medium) (records : RecordSet) :
    Lists records
      (instanceTable ⟨medium, records, .none⟩ ++ bindingTable ⟨medium, records, .none⟩) := by
  refine ⟨_, _, tabulates_table rfl (fun _ _ => rfl) fun id record hid => ?_,
    tabulates_table rfl (fun _ _ => rfl) fun id record hid => ?_, rfl⟩
  · unfold Store.retrieveInstance
    dsimp only
    rw [hid]
    rfl
  · unfold Store.retrieveBinding
    dsimp only
    rw [hid]
    rfl

/-! ### Runs -/

theorem run_catalog (specPath : String) (files : FileSystem) :
    (catalog specPath).run.run files
      = (match (Registry.ofFile files specPath .lazy).result with
        | .ok registry => .done (catalogText registry.catalog)
        | .error e => .failed e.toFailure, files) := by
  rw [Registry.ofFile_result]
  unfold run runCatalog
  dsimp only
  rw [FileWork.run_look]
  cases SpecFile.load files specPath with
  | error e => rfl
  | ok specs =>
    dsimp only
    cases (Registry.build specs .lazy).result <;> rfl

theorem run_records (dataDir : String) (files : FileSystem) :
    (records dataDir).run.run files
      = (match Store.openFile (recordFile dataDir) files with
        | .ok store => .done (instanceTable store ++ bindingTable store)
        | .error e => .failed e.toFailure, files) := by
  unfold run runRecords
  dsimp only
  rw [FileWork.run_look]
  cases Store.openFile (recordFile dataDir) files <;> rfl

theorem run_serve (listenAddress dataDir specPath : String) (pluginTimeout : UInt64)
    (files : FileSystem) :
    (serve listenAddress dataDir specPath pluginTimeout).run.run files
      = (match (Registry.ofFile files specPath .lazy).result with
        | .error e => .failed (e.toFailure.inContext ("loading service spec " ++ specPath))
        | .ok registry =>
          match Store.openFile (recordFile dataDir) files with
          | .error e => .failed ⟨"restoring records from " ++ recordFile dataDir,
              ("Record store operation `restore` failed: " ++ e.toFailure.message) ::
                e.toFailure.message :: e.toFailure.causes⟩
          | .ok store => .ready ⟨registry, .empty, store⟩ listenAddress, files) := by
  unfold run runServe
  dsimp only
  -- the specification is looked at first, and the records only if it is in order
  rw [FileWork.run_look]
  cases (Registry.ofFile files specPath .lazy).result with
  | error e => rfl
  | ok registry =>
    dsimp only
    rw [FileWork.run_look, Broker.start_eq_openFile]
    cases Store.openFile (recordFile dataDir) files <;> rfl

/-- No command leaves other files behind than it has found. -/
theorem run_files (command : Command) (files : FileSystem) : (command.run.run files).2 = files := by
  cases command with
  | serve listenAddress dataDir specPath pluginTimeout => rw [run_serve]
  | catalog specPath => rw [run_catalog]
  | records dataDir => rw [run_records]

/-- **A command depends on nothing but the files that it needs.** -/
theorem outcome_congr {files files' : FileSystem} {command : Command}
    (h : ∀ path ∈ command.paths, files'.node? path = files.node? path) :
    command.outcome files' = command.outcome files := by
  unfold outcome
  cases command with
  | serve listenAddress dataDir specPath pluginTimeout =>
    have hspec := h specPath List.mem_cons_self
    have hrecords := h (recordFile dataDir) (List.mem_cons_of_mem _ (List.mem_singleton_self _))
    rw [run_serve, run_serve, Registry.ofFile_congr hspec, Store.openFile_congr hrecords]
  | catalog specPath =>
    have hspec := h specPath (List.mem_singleton_self _)
    rw [run_catalog, run_catalog, Registry.ofFile_congr hspec]
  | records dataDir =>
    have hrecords := h (recordFile dataDir) (List.mem_singleton_self _)
    rw [run_records, run_records, Store.openFile_congr hrecords]

section Outcomes

variable {files : FileSystem} {specPath dataDir listenAddress : String} {pluginTimeout : UInt64}
  {failure : Failure}

/-! ### The check of a specification -/

theorem catalog_failed_iff : (catalog specPath).outcome files = .failed failure ↔
    ∃ e, (Registry.ofFile files specPath .lazy).result = .error e ∧ e.toFailure = failure := by
  rw [outcome, run_catalog]
  cases (Registry.ofFile files specPath .lazy).result <;> simp

theorem catalog_fails_iff : ((catalog specPath).outcome files).Fails ↔
    ¬ ∃ specs, SpecFile.load files specPath = .ok specs ∧
      Registry.Acceptable (fun _ => .lazy) specs := by
  rw [← Registry.ofFile_ok_iff, outcome, run_catalog]
  cases (Registry.ofFile files specPath .lazy).result <;> simp

/-- **A text shows the catalog of some services**: it spells a document, spread over several lines, and a
broker that offers the services answers every request for its catalog with the same document. -/
def ShowsCatalog (services : List Service) (text : String) : Prop :=
  ∃ document : Json, text = document.pretty ++ "\n" ∧ document.Spells document.pretty.toList ∧
    ∀ request : HttpRequest, request.method = .get → request.path = "/v2/catalog".toList →
      ∃ response, request.demand services = .response response ∧
        response.Carries 200 document.canonical

theorem showsCatalog_catalogText {registry : Registry}
    (h : (Registry.ofFile files specPath .lazy).result = .ok registry) :
    ShowsCatalog registry.services (catalogText registry.catalog) := by
  have hspells := Json.spells_pretty
    ((Registry.every_catalog h).imp fun _ hn => Number.readable_of_inRange hn)
  refine ⟨_, rfl, hspells 0, fun request hmethod hpath => ⟨_, ?_, HttpResponse.ofJson_carries ..⟩⟩
  -- the path is that of the catalog, and a GET is answered before anything else is asked
  have hroute : Route.ofPath? request.path = some .catalog := by
    rw [hpath]
    decide +kernel
  unfold HttpRequest.demand HttpRequest.demandOn?
  rw [hroute, hmethod]
  rfl

/-- What is shown is the catalog of the registry. -/
theorem catalog_shows (h : ¬ ((catalog specPath).outcome files).Fails) :
    ∃ registry text, (Registry.ofFile files specPath .lazy).result = .ok registry ∧
      (catalog specPath).outcome files = .done text ∧ ShowsCatalog registry.services text := by
  rw [catalog_fails_iff, not_not, ← Registry.ofFile_ok_iff] at h
  obtain ⟨registry, hregistry⟩ := h
  refine ⟨registry, _, hregistry, ?_, showsCatalog_catalogText hregistry⟩
  rw [outcome, run_catalog, hregistry]

/-! ### The check of a data directory -/

theorem records_failed_iff : (records dataDir).outcome files = .failed failure ↔
    ∃ e, Store.openFile (recordFile dataDir) files = .error e ∧ e.toFailure = failure := by
  rw [outcome, run_records]
  cases Store.openFile (recordFile dataDir) files <;> simp

theorem records_fails_iff : ((records dataDir).outcome files).Fails ↔
    ¬ ∃ found, files.Restores (recordFile dataDir) found := by
  -- a store is opened exactly if the records in its file are restored
  have hopens : (∃ store, Store.openFile (recordFile dataDir) files = .ok store)
      ↔ ∃ found, files.Restores (recordFile dataDir) found := by
    simp [Store.openFile_ok_iff]
  rw [← hopens, outcome, run_records]
  cases Store.openFile (recordFile dataDir) files <;> simp

/-- What is listed are the records that are found. -/
theorem records_lists (h : ¬ ((records dataDir).outcome files).Fails) :
    ∃ found text, files.Restores (recordFile dataDir) found ∧
      (records dataDir).outcome files = .done text ∧ Lists found text := by
  rw [records_fails_iff, not_not] at h
  obtain ⟨found, hfound⟩ := h
  refine ⟨found, _, hfound, ?_, lists_tables (.file (recordFile dataDir)) found⟩
  rw [outcome, run_records, Store.openFile_ok_iff.2 ⟨found, hfound, rfl⟩]

/-! ### Starts -/

theorem serve_fails_iff : ((serve listenAddress dataDir specPath pluginTimeout).outcome files).Fails ↔
    ((catalog specPath).outcome files).Fails ∨ ((records dataDir).outcome files).Fails := by
  -- both checks make the look that the start makes
  rw [outcome, outcome, outcome, run_serve, run_catalog, run_records]
  cases (Registry.ofFile files specPath .lazy).result <;>
    cases Store.openFile (recordFile dataDir) files <;> simp

/-- A start fails first of all because of the specification. -/
theorem serve_of_catalog_failed (h : (catalog specPath).outcome files = .failed failure) :
    (serve listenAddress dataDir specPath pluginTimeout).outcome files
      = .failed ⟨"loading service spec " ++ specPath, failure.message :: failure.causes⟩ := by
  obtain ⟨e, hregistry, rfl⟩ := catalog_failed_iff.1 h
  rw [outcome, run_serve, hregistry]
  rfl

/-- With a specification that is in order it fails because of the records. -/
theorem serve_of_records_failed (hspec : ¬ ((catalog specPath).outcome files).Fails)
    (h : (records dataDir).outcome files = .failed failure) :
    (serve listenAddress dataDir specPath pluginTimeout).outcome files
      = .failed ⟨"restoring records from " ++ recordFile dataDir,
          ("Record store operation `restore` failed: " ++ failure.message) ::
            failure.message :: failure.causes⟩ := by
  obtain ⟨registry, -, hregistry, -⟩ := catalog_shows hspec
  obtain ⟨e, hopen, rfl⟩ := records_failed_iff.1 h
  rw [outcome, run_serve, hregistry, hopen]

/-- A start that succeeds ends with a broker on the registry of the specification and on the records that
are found. -/
theorem serve_ready {registry : Registry} {found : RecordSet}
    (hregistry : (Registry.ofFile files specPath .lazy).result = .ok registry)
    (hfound : files.Restores (recordFile dataDir) found) :
    (serve listenAddress dataDir specPath pluginTimeout).outcome files
      = .ready ⟨registry, .empty, ⟨.file (recordFile dataDir), found, .none⟩⟩ listenAddress := by
  rw [outcome, run_serve, hregistry, Store.openFile_ok_iff.2 ⟨found, hfound, rfl⟩]

end Outcomes

/-- What comes of starting a broker, told by the checks of its specification and of its data directory on
the same files. -/
structure Foretold (files : FileSystem) (specPath dataDir listenAddress : String)
    (started checkedSpec checkedRecords : Outcome) : Prop where
  fails_iff : started.Fails ↔ checkedSpec.Fails ∨ checkedRecords.Fails
  /-- A failure of the specification is the cause, whatever the records are. -/
  specification : ∀ failure, checkedSpec = .failed failure →
    started = .failed ⟨"loading service spec " ++ specPath, failure.message :: failure.causes⟩
  /-- If there is none, that of the records is. -/
  records : ¬ checkedSpec.Fails → ∀ failure, checkedRecords = .failed failure →
    started = .failed ⟨"restoring records from " ++ recordFile dataDir,
      ("Record store operation `restore` failed: " ++ failure.message) ::
        failure.message :: failure.causes⟩
  checkedSpec_fails_iff : checkedSpec.Fails ↔ ¬ ∃ specs, SpecFile.load files specPath = .ok specs ∧
    Registry.Acceptable (fun _ => .lazy) specs
  /-- The check of a record file fails if there is one that is not read. -/
  checkedRecords_fails_iff : checkedRecords.Fails ↔
    ¬ ∃ found, files.Restores (recordFile dataDir) found
  /-- The catalog is shown that the broker publishes. -/
  shows : ¬ checkedSpec.Fails → ∃ registry text,
    (Registry.ofFile files specPath .lazy).result = .ok registry ∧ checkedSpec = .done text ∧
    ShowsCatalog registry.services text ∧
    (¬ checkedRecords.Fails → ∃ broker, started = .ready broker listenAddress ∧
      broker.registry = registry)
  /-- The records are listed that the broker starts on. -/
  lists : ¬ checkedRecords.Fails → ∃ found text, files.Restores (recordFile dataDir) found ∧
    checkedRecords = .done text ∧ Lists found text ∧
    (¬ checkedSpec.Fails → ∃ broker, started = .ready broker listenAddress ∧
      broker.store.records = found)
  /-- Neither the start nor a check makes, changes or removes a file. -/
  untouched : ∀ command : Command, (command.run.run files).2 = files

/-- **The checks foretell the start**, whatever the files, the specification and the data directory
are. -/
theorem serve_foretold (files : FileSystem) (specPath dataDir listenAddress : String)
    (pluginTimeout : UInt64) :
    Foretold files specPath dataDir listenAddress
      ((serve listenAddress dataDir specPath pluginTimeout).outcome files)
      ((catalog specPath).outcome files) ((records dataDir).outcome files) where
  fails_iff := serve_fails_iff
  specification := fun _ => serve_of_catalog_failed
  records := fun hspec _ => serve_of_records_failed hspec
  checkedSpec_fails_iff := catalog_fails_iff
  checkedRecords_fails_iff := records_fails_iff
  shows := by
    intro hspec
    obtain ⟨registry, text, hregistry, htext, hshows⟩ := catalog_shows hspec
    refine ⟨registry, text, hregistry, htext, hshows, fun hrecords => ?_⟩
    obtain ⟨found, -, hfound, -⟩ := records_lists hrecords
    exact ⟨_, serve_ready hregistry hfound, rfl⟩
  lists := by
    intro hrecords
    obtain ⟨found, text, hfound, htext, hlists⟩ := records_lists hrecords
    refine ⟨found, text, hfound, htext, hlists, fun hspec => ?_⟩
    obtain ⟨registry, -, hregistry, -⟩ := catalog_shows hspec
    exact ⟨_, serve_ready hregistry hfound, rfl⟩
  untouched command := run_files command files

end Command

namespace SmallHost

open Installation (spec registry build_spec)

/-- The document of the specification. -/
def document : Json :=
  .arr [.obj [("driver_name", .str "driver"), ("connection_address", .str "plugin"),
    ("id", .str "svc"), ("name", .str "service"), ("description", .str ""), ("bindable", .bool true),
    ("plan_updateable", .bool false), ("tags", .arr []), ("requires", .arr []),
    ("plans", .arr [.obj [("id", .str "plan"), ("name", .str "plan"), ("description", .str "")]])]]

/-- Two instances and a binding. -/
def records : RecordSet where
  instances := ⟨[("i-10", ⟨"svc", "plan", "org", "space", .document (.obj [])⟩),
    ("i-9", ⟨"svc", "plan", "org", "space", .document (.obj [])⟩)], by decide⟩
  bindings := ⟨[("b-1", ⟨"svc", "plan", "app", none, none⟩)], by decide⟩

/-- A host with the two files. -/
def files : FileSystem where
  nodes := ⟨[("/data", .directory),
    ("/data/csi-general-services.json", .file (.text (RecordSet.shape.codec.write records).pretty)),
    ("/specs.json", .file (.text document.compact))], by decide⟩
  workDir := []
  locked := []

theorem load_specs : SpecFile.load files "/specs.json" = .ok [spec] := by
  have hplace : files.place? "/specs.json" = some ["specs.json"] := by decide +kernel
  have hread : files.readText? "/specs.json" = some document.compact := by
    unfold FileSystem.readText? FileSystem.node?
    rw [hplace]
    rfl
  have hnumbers : document.Every fun n => n.InRange ∧ n.reread = n := by
    refine .arr (List.forall_mem_singleton.2 (.obj ?_))
    simp only [List.forall_mem_cons]
    refine ⟨.str _, .str _, .str _, .str _, .str _, .bool _, .bool _, .arr nofun, .arr nofun, ?_, nofun⟩
    refine .arr (List.forall_mem_singleton.2 (.obj ?_))
    simp only [List.forall_mem_cons]
    exact ⟨.str _, .str _, .str _, nofun⟩
  have hspec : spec.NullFree := ⟨nofun, List.forall_mem_singleton.2 nofun⟩
  exact (SpecFile.holds_compact (by decide) hread hnumbers (by decide)).load
    ⟨_, rfl, .cons hspec.words_write .nil⟩

theorem restores_records : files.Restores "/data/csi-general-services.json" records := by
  have hplace : files.place? "/data/csi-general-services.json"
      = some ["data", "csi-general-services.json"] := by decide +kernel
  have hread : files.readText? "/data/csi-general-services.json"
      = some (RecordSet.shape.codec.write records).pretty := by
    unfold FileSystem.readText? FileSystem.node?
    rw [hplace]
    rfl
  have hlegible : records.Legible := by
    refine ⟨?_, List.forall_mem_singleton.2 nofun⟩
    have hslot : (Slot.document (.obj [])).Legible := .inr ⟨_, rfl, ⟨rfl, .obj nofun⟩, by decide⟩
    exact List.forall_mem_cons.2 ⟨hslot, List.forall_mem_singleton.2 hslot⟩
  exact .found hread (Store.parseRecords_of_shallow hlegible (List.forall_mem_singleton.2 nofun))

/-- Records are listed by the bytes of their ids, and so a ten stands before a nine. -/
theorem lists_records : Command.Lists records
    ("Instance\tService\tPlan\n" ++ "i-10\tsvc\tplan\n" ++ "i-9\tsvc\tplan\n" ++
      "Binding\tService\tApp\n" ++ "b-1\tsvc\tapp\n") :=
  Command.lists_tables .memory records

/-- Both checks pass. What they show and list is what the broker then publishes and starts on. -/
theorem checks_foretell : ∃ shown broker,
    (Command.catalog "/specs.json").outcome files = .done shown ∧
    Command.ShowsCatalog [spec.service.withVolumeMount] shown ∧
    (Command.records "/data").outcome files = .done
      ("Instance\tService\tPlan\n" ++ "i-10\tsvc\tplan\n" ++ "i-9\tsvc\tplan\n" ++
        "Binding\tService\tApp\n" ++ "b-1\tsvc\tapp\n") ∧
    (Command.serve "0.0.0.0:8999" "/data" "/specs.json" 30).outcome files
      = .ready broker "0.0.0.0:8999" ∧
    broker.services = [spec.service.withVolumeMount] ∧ broker.store.records = records := by
  have hforetold := Command.serve_foretold files "/specs.json" "/data" "0.0.0.0:8999" 30
  have hregistry : (Registry.ofFile files "/specs.json" .lazy).result
      = .ok registry := by
    rw [Registry.ofFile_result, load_specs]
    exact build_spec
  have hrecordFile : Command.recordFile "/data" = "/data/csi-general-services.json" := by
    decide +kernel
  -- neither check fails
  have hspec : ¬ ((Command.catalog "/specs.json").outcome files).Fails := by
    rw [hforetold.checkedSpec_fails_iff, not_not, ← Registry.ofFile_ok_iff]
    exact ⟨_, hregistry⟩
  have hrecords : ¬ ((Command.records "/data").outcome files).Fails := by
    rw [hforetold.checkedRecords_fails_iff, not_not, hrecordFile]
    exact ⟨records, restores_records⟩
  obtain ⟨published, shown, hbuilt, hshown, hshows, hstarts⟩ := hforetold.shows hspec
  obtain rfl := Except.ok.inj (hregistry.symm.trans hbuilt)
  obtain ⟨found, listed, hfound, hlisted, hlists, hstarts'⟩ := hforetold.lists hrecords
  rw [hrecordFile] at hfound
  obtain rfl := restores_records.unique hfound
  -- both tell of the same start
  obtain ⟨broker, hready, hbroker⟩ := hstarts hrecords
  obtain ⟨broker', hready', hfound'⟩ := hstarts' hspec
  obtain ⟨rfl, -⟩ := Outcome.ready.inj (hready.symm.trans hready')
  refine ⟨shown, broker, hshown, hshows, ?_, hready, ?_, hfound'⟩
  · rw [hlisted, hlists.unique lists_records]
  · rw [Broker.services, hbroker]
    rfl

end SmallHost

end VolumeBroker
