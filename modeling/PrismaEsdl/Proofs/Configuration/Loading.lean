import PrismaEsdl.Configuration.Loading
import PrismaEsdl.Proofs.Configuration.Checking
import PrismaEsdl.Proofs.Prisma.Loading

/-!
The outcome of loading a configuration, without what is told on the way.

Loading is reading the file, if one is named, and then checking what the settings are given or what
the file says (`outcome_load`). Where the file supplies a document, or no file is named, nothing but
the effective values of the settings counts (`outcome_loadFrom_of_supplies`): `effective?` is the
value that is given for a setting, else the one that the file says, else the default. So loading is
decided setting by setting, and so is what is reported (`load_decides_by_setting`).
-/

namespace PrismaEsdl.Configuration

/-- What the file of a configuration supplies: a document, unless no file is named. -/
inductive Supplies (stack : Stack) (tree : Files.Tree) : Option Text → Option Document → Prop
  | unnamed : Supplies stack tree none none
  | blank : Supplies stack tree (some []) none
  | file {path : Text} {content : List UInt8} {document : Document} (named : path ≠ [])
      (found : tree.find (.ofText path) = .file content)
      (meant : Yaml.readContent stack content = .ok document) :
      Supplies stack tree (some path) (some document)

/-- What a document says about a setting, if it is an object that says anything. -/
def saidIn (document : Document) (setting : Setting) : Option Document :=
  document.entries?.bind (Document.lookup setting.name)

/-- The value that counts for a setting: the one that is given, else the one that the document of a
file says, else the default. -/
def effective? (document? : Option Document) (values : Table Text Document) (setting : Setting) :
    Option Document :=
  (givenIn values setting).or <|
    (document?.bind fun document => saidIn document setting).or (setting.default?.map .text)

section

variable {stack : Stack} {tree : Files.Tree} {path : Option Text} {document? : Option Document}
  {values : Table Text Document}

theorem outcome_validated (file : Option Text) (outcome : Except Refusal Configuration) :
    (validated file outcome).outcome = outcome.mapError (·.failure file) := by
  cases outcome <;> rfl

/-- Nothing is in a document that does not count as something. -/
theorem entriesOf_nothing {document : Document} (nothing : document.isSomething = false) :
    document.entries?.getD [] = [] := by
  cases document with
  | object entries =>
      have none : entries = [] := by simpa [Document.isSomething] using nothing
      rw [none]
      rfl
  | labelled => cases nothing
  | _ => rfl

theorem outcome_entriesOf (file : Text) (document : Document) :
    (entriesOf file document).outcome = .ok (document.entries?.getD []) := by
  unfold entriesOf
  cases something : document.isSomething with
  | false =>
      rw [entriesOf_nothing something]
      rfl
  | true => cases document.entries? <;> rfl

theorem outcome_readEntries_file (file : Text) (content : List UInt8) :
    (readEntries stack file (.file content)).outcome =
      (Yaml.readFile stack (Refusal.unparsable.failure (some file)) content).map
        fun document => document.entries?.getD [] := by
  simp only [readEntries, Log.Run.outcome_bind, Log.Run.outcome_ofExcept, outcome_entriesOf]
  rfl

/-- The entries in the file of a configuration; there are none if no file is named. -/
def entriesIn (stack : Stack) :
    Option (Text × Files.Finding) → Log.Run Failure (List (Document × Document))
  | some (file, finding) => readEntries stack file finding
  | none => pure []

/-- Loading is reading the file and checking the values of the settings. -/
theorem outcome_load (file : Option (Text × Files.Finding)) (given : Setting → Option Document) :
    (load stack file given).outcome = (entriesIn stack file).outcome.bind fun entries =>
      (ofValues fun setting => (given setting).or (Document.lookup setting.name entries)).mapError
        (·.failure (file.map Prod.fst)) := by
  rcases file with _ | ⟨file, finding⟩
  all_goals
    unfold load
    rw [Log.Run.outcome_bind]
    congr 1
    funext entries
    dsimp only
    split
    all_goals
      simp only [Log.Run.outcome_bind, outcome_validated]
      generalize Except.mapError _ _ = made
      cases made <;> rfl

/-- Values that are checked to the same make the same configuration, or the same faults. -/
theorem ofValues_congr {value? value?' : Setting → Option Document}
    (same : ∀ setting : Setting, setting.check (value? setting) = setting.check (value?' setting)) :
    ofValues value? = ofValues value?' := by
  simp only [ofValues, faults, same]

/-- Where the file supplies what it is named for, the effective values are checked, and nothing
else counts. -/
theorem outcome_loadFrom_of_supplies (supplies : Supplies stack tree path document?) :
    (loadFrom stack tree path values).outcome = (ofValues (effective? document? values)).mapError
      (·.failure (path.filter (!·.isEmpty))) := by
  have checked (document? : Option Document) (entries : List (Document × Document))
      (said : ∀ setting : Setting, Document.lookup setting.name entries
        = document?.bind fun document => saidIn document setting) :
      (ofValues fun setting => (givenIn values setting).or (Document.lookup setting.name entries))
        = ofValues (effective? document? values) := by
    apply ofValues_congr
    intro setting
    rw [said, effective?, ← Option.or_assoc, Setting.check_or_default]
  unfold loadFrom
  rw [outcome_load]
  cases supplies with
  | unnamed | blank =>
      rw [← checked none [] fun _ => rfl]
      rfl
  | @file path content document named found meant =>
      have notEmpty : path.isEmpty = false := by simpa using named
      have said (setting : Setting) : Document.lookup setting.name (document.entries?.getD [])
          = saidIn document setting := by
        unfold saidIn
        cases document.entries? <;> rfl
      rw [← checked (some document) _ said]
      simp only [Option.filter_some, notEmpty, Bool.not_false, if_true, Option.map_some, entriesIn,
        found, outcome_readEntries_file, Yaml.readFile, meant]
      rfl

/-! ### Reports -/

/-- The report of a refusal, with the path of the file if one is named. -/
def Refusal.report (refusal : Refusal) (file : Option Text) : Report :=
  (Problem.configuration refusal.message file).report refusal.context []

/-- The entry with the path of the file: an empty path is none. -/
def fileEntry (path : Option Text) : List (Text × Text) := Problem.entry? "config_file" path

theorem fileEntry_filter (path : Option Text) :
    fileEntry (path.filter (!·.isEmpty)) = fileEntry path := by
  rcases path with _ | _ | _ <;> rfl

/-- The context of the report about faults: an entry for each of them, and then the path. -/
theorem entries_context_report {faults : List (Setting × Setting.Fault)}
    (ordered : (faults.map Prod.fst).Sublist Setting.all) (file : Option Text) :
    ((Refusal.invalid faults).report file).context.entries =
      faults.map (fun (setting, fault) => (setting.name, fault.message)) ++ fileEntry file := by
  have names : ((faults.map fun (setting, fault) => (setting.name, fault.message)).map Prod.fst
      ++ (fileEntry file).map Prod.fst).Sublist
        (Setting.all.map Setting.name ++ [("config_file" : Text)]) := by
    refine List.Sublist.append ?_ ?_
    · rw [List.map_map]
      simpa [Function.comp_def] using ordered.map Setting.name
    · rcases file with _ | _ | _
      · exact List.nil_sublist _
      · exact List.nil_sublist _
      · exact .refl _
  have distinct := names.nodup (by decide)
  have faultEntries := Table.entries_ofList_of_nodup (List.nodup_append.mp distinct).1
  change (Table.insertMany (Table.ofList _) (fileEntry file)).entries = _
  rw [Table.entries_insertMany_of_nodup, faultEntries]
  rwa [Table.keys, faultEntries]

/-! ### Settings on their own -/

/-- A value that is given for one setting is its effective value, and no other one's. -/
theorem effective?_insert_name {setting : Setting} {value : Document} (isGiven : value ≠ .null)
    (other : Setting) : effective? document? (values.insert setting.name value) other =
      if other = setting then some value else effective? document? values other := by
  unfold effective? givenIn
  rw [Table.get?_insert]
  by_cases same : other = setting
  · subst same
    rw [if_pos rfl, if_pos rfl]
    cases value <;> first | rfl | exact absurd rfl isGiven
  · rw [if_neg fun names => same (Setting.name_injective names).symm, if_neg same]

/-- What is given under any other name has no effect. -/
theorem effective?_insert_of_ne {key : Text} (noSetting : ∀ setting : Setting, key ≠ setting.name)
    (value : Document) (setting : Setting) :
    effective? document? (values.insert key value) setting
      = effective? document? values setting := by
  unfold effective? givenIn
  rw [Table.get?_insert, if_neg (noSetting setting)]

/-- An entry of the file under any other key has no effect. -/
theorem saidIn_of_ne {before after : List (Document × Document)} {key : Document}
    (noSetting : ∀ setting : Setting, key ≠ .text setting.name) (content : Document)
    (setting : Setting) : saidIn (.object (before ++ (key, content) :: after)) setting
      = saidIn (.object (before ++ after)) setting := by
  change Document.lookup _ _ = Document.lookup _ _
  induction before with
  | nil =>
      cases key with
      | text name =>
          have other : name ≠ setting.name := fun same => noSetting setting (same ▸ rfl)
          exact if_neg other
      | _ => rfl
  | cons entry rest ih =>
      obtain ⟨known, _⟩ := entry
      cases known with
      | text name =>
          simp only [List.cons_append, Document.lookup]
          rw [ih]
      | _ => exact ih

/-- What `check` accepts is an effective value that suits the setting. -/
theorem check_effective_eq_ok_iff {setting : Setting} {t : Text} :
    setting.check (effective? document? values setting) = .ok t ↔
      ∃ value, effective? document? values setting = some value ∧ setting.Suits value t := by
  cases effective : effective? document? values setting with
  | some value => simp [Setting.check_eq_ok_iff]
  | none =>
      simp only [reduceCtorEq, false_and, exists_false, iff_false]
      have required : setting.default? = none := by
        simp only [effective?, Option.or_eq_none_iff, Option.map_eq_none_iff] at effective
        exact effective.2.2
      rw [(Setting.Offends.missing required).check_eq]
      exact nofun

/-- Loading succeeds exactly if every setting has an effective value that suits it. -/
theorem loadFrom_eq_ok_iff (supplies : Supplies stack tree path document?)
    (configuration : Configuration) :
    (loadFrom stack tree path values).outcome = .ok configuration ↔
      ∀ setting : Setting, ∃ value, effective? document? values setting = some value ∧
        setting.Suits value (configuration.value setting) := by
  rw [outcome_loadFrom_of_supplies supplies]
  trans ofValues (effective? document? values) = .ok configuration
  · cases ofValues (effective? document? values) <;> simp [Except.mapError]
  · rw [ofValues_eq_ok_iff]
    exact forall_congr' fun setting => check_effective_eq_ok_iff

/-- Otherwise the faults of all settings are reported. -/
theorem loadFrom_eq_error (supplies : Supplies stack tree path document?)
    (refused : ¬ ∃ configuration, (loadFrom stack tree path values).outcome = .ok configuration) :
    (loadFrom stack tree path values).outcome = .error (.reported "ConfigurationError"
      ((Refusal.invalid (faults (effective? document? values))).report
        (path.filter (!·.isEmpty)))) := by
  have outcome : (loadFrom stack tree path values).outcome = _ :=
    outcome_loadFrom_of_supplies supplies
  rcases ofValues_cases (effective? document? values) with ⟨configuration, made⟩ | failed
  · rw [made] at outcome
    exact absurd ⟨configuration, outcome⟩ refused
  · rw [failed] at outcome
    exact outcome

/-- The settings with a fault are those that have no effective value that suits them. -/
theorem mem_faults_effective_iff {setting : Setting} :
    setting ∈ (faults (effective? document? values)).map Prod.fst ↔
      ¬ ∃ value t, effective? document? values setting = some value ∧ setting.Suits value t := by
  have suits :
      (∃ value t, effective? document? values setting = some value ∧ setting.Suits value t) ↔
        ∃ t, setting.check (effective? document? values setting) = .ok t := by
    rw [exists_comm]
    exact exists_congr fun t => check_effective_eq_ok_iff.symm
  have faulty : setting ∈ (faults (effective? document? values)).map Prod.fst ↔
      ∃ fault, setting.check (effective? document? values setting) = .error fault := by
    simp [mem_faults_iff, Setting.check_eq_error_iff]
  rw [suits, faulty]
  cases setting.check (effective? document? values setting) <;> simp

/-- Loading is decided setting by setting. It succeeds exactly if every setting has an effective
value that suits it, and gives these values; otherwise the report has an entry for each setting that
has none, in the order of the settings, which says what is wrong with it. Nothing but the effective
values counts; a value that is given for a setting changes its own, and nothing else that is given
or said changes any. -/
theorem load_decides_by_setting (supplies : Supplies stack tree path document?) :
    (∀ configuration, (loadFrom stack tree path values).outcome = .ok configuration ↔
      ∀ setting : Setting, ∃ value, effective? document? values setting = some value ∧
        setting.Suits value (configuration.value setting)) ∧
    ((¬ ∃ configuration, (loadFrom stack tree path values).outcome = .ok configuration) →
      ∃ (offences : List (Setting × Setting.Fault)) (report : Report),
        (loadFrom stack tree path values).outcome = .error (.reported "ConfigurationError" report) ∧
        report.context.entries = offences.map
          (fun (setting, fault) => (setting.name, fault.message)) ++ fileEntry path ∧
        (offences.map Prod.fst).Sublist Setting.all ∧
        (∀ setting, setting ∈ offences.map Prod.fst ↔
          ¬ ∃ value t, effective? document? values setting = some value ∧ setting.Suits value t) ∧
        ∀ setting fault, (setting, fault) ∈ offences →
          setting.Offends (effective? document? values setting) fault) ∧
    (∀ tree' document?' values', Supplies stack tree' path document?' →
      (∀ setting, effective? document?' values' setting = effective? document? values setting) →
      (loadFrom stack tree' path values').outcome = (loadFrom stack tree path values).outcome) ∧
    (∀ setting : Setting, ∀ value, value ≠ .null → ∀ other,
      effective? document? (values.insert setting.name value) other =
        if other = setting then some value else effective? document? values other) ∧
    (∀ key, (∀ setting : Setting, key ≠ setting.name) → ∀ value setting,
      effective? document? (values.insert key value) setting
        = effective? document? values setting) ∧
    ∀ key, (∀ setting : Setting, key ≠ .text setting.name) → ∀ before content after setting,
      saidIn (.object (before ++ (key, content) :: after)) setting
        = saidIn (.object (before ++ after)) setting := by
  refine ⟨loadFrom_eq_ok_iff supplies, fun refused => ?_,
    fun tree' document?' values' supplies' same => ?_,
    fun setting value isGiven other => effective?_insert_name isGiven other,
    fun key noSetting value setting => effective?_insert_of_ne noSetting value setting,
    fun key noSetting before content after setting => saidIn_of_ne noSetting content setting⟩
  · have ordered := faults_sublist (effective? document? values)
    refine ⟨_, _, loadFrom_eq_error supplies refused, ?_, ordered,
      fun setting => mem_faults_effective_iff, fun setting fault member => mem_faults_iff.mp member⟩
    rw [entries_context_report ordered, fileEntry_filter]
  · rw [outcome_loadFrom_of_supplies supplies, outcome_loadFrom_of_supplies supplies',
      funext same]

/-! ### JSON files -/

/-- The JSON file of a document supplies what its text is read back as. -/
theorem supplies_of_json {path : Text} {content : List UInt8} {document : Document}
    {layout : Json.Layout} (json : document.IsJson Binary64.IsCanonical)
    (showable : document.isShowable = true) (blanks : layout.HasBlanks)
    (faultless : document.textFault stack.nodes layout = none)
    (written : Text.Utf8.encode? (document.toJson layout) = some content) (named : path ≠ [])
    (found : tree.find (.ofText path) = .file content) :
    Supplies stack tree (some path) (some document.reread) := by
  refine .file named found ?_
  rw [Yaml.readContent_toJson blanks json showable written, faultless]

/-- A tree with nothing but the JSON file of a configuration. -/
def holding (content : List UInt8) : Files.Tree :=
  ⟨.ofList [(["home", "c.json"], .file content)], ["home"]⟩

/-- A file with some fields, each of them a text or null. -/
theorem supplies_holding {fields : List (Text × Document)} {content : List UInt8}
    (json : (Document.ofFields fields).IsJson Binary64.IsCanonical)
    (showable : (Document.ofFields fields).isShowable = true)
    (faultless : (Document.ofFields fields).textFault stack.nodes .line = none)
    (written : Text.Utf8.encode? ((Document.ofFields fields).toJson .line) = some content) :
    Supplies stack (holding content) (some "c.json")
      (some (Document.ofFields fields).reread) :=
  supplies_of_json json showable (show Json.Layout.line.HasBlanks from trivial) faultless written
    (by decide) rfl

/-- A null in the file is no value, and one that is given stands for none: the former is repaired by
a given text, and the latter leaves the default. -/
theorem given_value_repairs_null : ∃ content,
    Supplies .usual (holding content) (some "c.json") (some (.ofFields [
      ("input_path", .null), ("output_path", .text "out.esdl"), ("strict", .bool true)])) ∧
    (loadFrom .usual (holding content) (some "c.json")
      (.ofList [("input_path", .text "s.json"), ("module_name", .null)])).outcome
        = .ok ⟨"s.json", "out.esdl", "default"⟩ := by
  have json : (Document.ofFields [("input_path", .null), ("output_path", .text "out.esdl"),
      ("strict", .bool true)]).IsJson Binary64.IsCanonical := by
    simp
  have blanks : Json.Layout.line.HasBlanks := trivial
  obtain ⟨content, written⟩ := Text.exists_encode? (Document.isAscii_toJsonIn blanks json 0)
  have supplies : Supplies .usual _ _ _ := supplies_holding json rfl rfl written
  refine ⟨content, supplies, ((load_decides_by_setting supplies).1 _).mpr fun setting => ?_⟩
  apply check_effective_eq_ok_iff.mp
  cases setting <;> rfl

/-- Texts that are not empty do not suffice: half of a character is a text, but no text for a
setting. -/
theorem not_every_nonempty_text_suits :
    ¬ ∀ tree path document? values, Supplies .usual tree path document? →
      ((∃ configuration, (loadFrom .usual tree path values).outcome = .ok configuration) ↔
        ∀ setting : Setting, ∃ t, effective? document? values setting = some (.text t) ∧ t ≠ [] ∧
          (setting = .moduleName → t.isIdentifier = true)) := by
  intro enough
  have json : (Document.ofFields [("input_path", .text [.surrogate 0x3d])]).IsJson
      Binary64.IsCanonical := by
    simp
  have blanks : Json.Layout.line.HasBlanks := trivial
  obtain ⟨content, written⟩ := Text.exists_encode? (Document.isAscii_toJsonIn blanks json 0)
  have supplies : Supplies .usual _ _ _ := supplies_holding json rfl rfl written
  obtain ⟨configuration, accepted⟩ :=
    (enough _ _ _ ∅ supplies).mpr fun setting => by
      cases setting with
      | inputPath => exact ⟨[.surrogate 0x3d], rfl, by decide, nofun⟩
      | outputPath => exact ⟨"./schema.esdl", rfl, by decide, nofun⟩
      | moduleName => exact ⟨"default", rfl, by decide, fun _ => rfl⟩
  obtain ⟨value, effective, suits⟩ :=
    (loadFrom_eq_ok_iff supplies configuration).mp accepted .inputPath
  have half : effective? (some (Document.ofFields [("input_path", .text [.surrogate 0x3d])]).reread)
      ∅ .inputPath = some (.text [.surrogate 0x3d]) := rfl
  cases half.symm.trans effective
  have refused :
      Setting.inputPath.check (some (.text [.surrogate 0x3d])) = .error .notUnicode := rfl
  cases refused.symm.trans suits.check_eq

end

end PrismaEsdl.Configuration
