import SearchCriteria.Proofs.Config.Environment

/-! The layers of a configuration. Variables lie over the file, and each of the two settings is
taken from the highest layer that has it, whatever the layers have elsewhere. So a value that lies
under another one is never converted, and no value that is missing is a failure. -/
namespace SearchCriteria

namespace Setting

variable {value onto : Setting} {s : String}

def isTable : Setting → Bool
  | table _ => true
  | _ => false

theorem isTable_iff : value.isTable = true ↔ ∃ fields, value = table fields := by
  cases value <;> simp [isTable]

theorem isTable_ofVariable (s : String) : (ofVariable s).isTable = false := by
  unfold ofVariable
  grind [isTable]

@[simp] theorem get?_table (name : String) (fields : NameTable Setting) :
    (table fields).get? name = fields.get? name := rfl

theorem overlay_value (h : value.isTable = false) (s : String) (onto : Setting) :
    overlay s value onto = table (onto.fields.set (Text.lowercase s) value) := by
  cases value with
  | table fields => cases h
  | _ => simp [overlay]

/-- A path that begins with a name leads into the entry of that name. -/
theorem overlayAt_name (value : Setting) (s : String) (rest : List PathStep) (onto : Setting) :
    ∃ w, overlayAt value (.name s :: rest) onto =
      table (onto.fields.set (Text.lowercase s) w) := by
  cases rest with
  | nil =>
    cases value with
    | table fields => exact ⟨_, by rw [overlayAt, overlay]⟩
    | _ => exact ⟨_, by rw [overlayAt, overlay_value rfl]⟩
  | cons step rest => exact ⟨_, by rw [overlayAt]; simp⟩

theorem overlayAt_name_cons (value : Setting) (s : String) (step : PathStep) (rest : List PathStep)
    (onto : Setting) :
    overlayAt value (.name s :: step :: rest) onto =
      table (onto.fields.set (Text.lowercase s)
        (overlayAt value (step :: rest) ((onto.get? (Text.lowercase s)).getD absent))) := by
  rw [overlayAt]
  · rfl
  · simp

end Setting

open Setting

namespace SearchConfig

def settingNames : List String := ["collection_prefix", "default_rows"]

def settingPath (name : String) : String := "search." ++ name

/-- What the section of the settings gives for a name. -/
def part? (name : String) (settings : Setting) : Option Setting :=
  (settings.get? "search").bind (Setting.get? name)

def HasTable (settings : Setting) : Prop :=
  ∀ part ∈ settings.get? "search", part.isTable = true

instance (settings : Setting) : Decidable (HasTable settings) :=
  inferInstanceAs (Decidable (∀ part ∈ settings.get? "search", part.isTable = true))

def LeadsElsewhere (steps : List PathStep) : Prop :=
  ∃ s rest, steps = .name s :: rest ∧ Text.lowercase s ≠ "search"

/-- Steps that do not lead to one of the two settings, into one, or to the section as a whole. -/
inductive PassesBy : List PathStep → Prop
  | elsewhere {s : String} {rest : List PathStep} (hs : Text.lowercase s ≠ "search") :
      PassesBy (.name s :: rest)
  | inside {s t : String} {rest : List PathStep} (hs : Text.lowercase s = "search")
      (ht : Text.lowercase t ∉ settingNames) : PassesBy (.name s :: .name t :: rest)

instance : DecidablePred PassesBy
  | [] => .isFalse (by rintro ⟨⟩)
  | .index n :: rest => .isFalse (by rintro ⟨⟩)
  | [.name s] =>
    if hs : Text.lowercase s ≠ "search" then .isTrue (.elsewhere hs)
    else .isFalse (by rintro ⟨h⟩; exact hs h)
  | .name s :: .index n :: rest =>
    if hs : Text.lowercase s ≠ "search" then .isTrue (.elsewhere hs)
    else .isFalse (by rintro ⟨h⟩; exact hs h)
  | .name s :: .name t :: rest =>
    if hs : Text.lowercase s ≠ "search" then .isTrue (.elsewhere hs)
    else if ht : Text.lowercase t ∉ settingNames then
      .isTrue (.inside (not_not.1 hs) ht)
    else .isFalse (by rintro (h | ⟨-, h⟩); exacts [hs h, ht h])

theorem stepsOf_settingPath {name : String} (h : name ∈ settingNames) :
    stepsOf (settingPath name) = [.name "search", .name name] := by
  simp only [settingNames, List.mem_cons, List.not_mem_nil, or_false] at h
  rcases h with rfl | rfl <;> decide +kernel

theorem lowercase_settingName {name : String} (h : name ∈ settingNames) :
    Text.lowercase name = name := by
  simp only [settingNames, List.mem_cons, List.not_mem_nil, or_false] at h
  rcases h with rfl | rfl <;> decide +kernel

theorem lowercase_search : Text.lowercase "search" = "search" := by decide +kernel

theorem settingPath_inj {a b : String} : settingPath a = settingPath b ↔ a = b := by
  simp [settingPath]

theorem not_passesBy_settingPath {name : String} (h : name ∈ settingNames) :
    ¬ PassesBy (stepsOf (settingPath name)) := by
  rw [stepsOf_settingPath h]
  intro hpasses
  cases hpasses with
  | elsewhere hs => exact hs lowercase_search
  | inside hs ht => exact ht (by rwa [lowercase_settingName h])

variable {value settings : Setting} {steps : List PathStep} {name : String}

theorem get?_search_overlayAt {s t : String} (hs : Text.lowercase s = "search") (value : Setting)
    (rest : List PathStep) (settings : Setting) :
    ∃ w, (overlayAt value (.name s :: .name t :: rest) settings).get? "search" =
      some (table ((((settings.get? "search").getD absent).fields).set (Text.lowercase t) w)) := by
  obtain ⟨w, hw⟩ := overlayAt_name value t rest ((settings.get? "search").getD absent)
  refine ⟨w, ?_⟩
  rw [overlayAt_name_cons, hs, get?_table, NameTable.get?_set, if_pos rfl, hw]

theorem get?_search_elsewhere {s : String} (hs : Text.lowercase s ≠ "search") (value : Setting)
    (rest : List PathStep) (settings : Setting) :
    (overlayAt value (.name s :: rest) settings).get? "search" = settings.get? "search" := by
  obtain ⟨w, hw⟩ := overlayAt_name value s rest settings
  rw [hw, get?_table, NameTable.get?_set, if_neg (Ne.symm hs)]
  rfl

theorem get?_getD_absent (name : String) (part : Option Setting) :
    NameTable.get? name (part.getD absent).fields = part.bind (Setting.get? name) := by
  cases part <;> rfl

theorem part?_of_passesBy (h : PassesBy steps) (hname : name ∈ settingNames) :
    part? name (overlayAt value steps settings) = part? name settings := by
  cases h with
  | elsewhere hs => rw [part?, get?_search_elsewhere hs, part?]
  | @inside s t rest hs ht =>
    obtain ⟨w, hw⟩ := get?_search_overlayAt (t := t) hs value rest settings
    have hne : name ≠ Text.lowercase t := fun heq => ht (heq ▸ hname)
    rw [part?, hw, Option.bind_some, get?_table, NameTable.get?_set, if_neg hne, get?_getD_absent,
      part?]

theorem hasTable_of_passesBy (h : PassesBy steps) (hsettings : HasTable settings) :
    HasTable (overlayAt value steps settings) := by
  intro part hpart
  cases h with
  | elsewhere hs => exact hsettings part (by rwa [get?_search_elsewhere hs] at hpart)
  | @inside s t rest hs ht =>
    obtain ⟨w, hw⟩ := get?_search_overlayAt (t := t) hs value rest settings
    exact isTable_iff.2 ⟨_, Option.some.inj (hpart.symm.trans hw)⟩

theorem get?_search_settingPath {own : String} (hown : own ∈ settingNames)
    (hvalue : value.isTable = false) (settings : Setting) :
    (overlayPath (settingPath own) value settings).get? "search" =
      some (table ((((settings.get? "search").getD absent).fields).set own value)) := by
  rw [overlayPath, stepsOf_settingPath hown, overlayAt_name_cons, lowercase_search, get?_table,
    NameTable.get?_set, if_pos rfl, overlayAt, overlay_value hvalue, lowercase_settingName hown]

theorem part?_settingPath {own : String} (hown : own ∈ settingNames)
    (hvalue : value.isTable = false) (name : String) (settings : Setting) :
    part? name (overlayPath (settingPath own) value settings) =
      if name = own then some value else part? name settings := by
  rw [part?, get?_search_settingPath hown hvalue, Option.bind_some, get?_table, NameTable.get?_set,
    get?_getD_absent, part?]

/-- Values for the two settings and for others that do not matter to them. -/
def LayerEntries (entries : List (String × Setting)) : Prop :=
  ∀ e ∈ entries, e.2.isTable = false ∧
    (e.1 ∈ settingNames.map settingPath ∨ PassesBy (stepsOf e.1))

theorem overlayPaths_concat (entries : List (String × Setting)) (e : String × Setting)
    (settings : Setting) :
    overlayPaths (entries ++ [e]) settings =
      overlayPath e.1 e.2 (overlayPaths entries settings) := by
  simp [overlayPaths]

/-- The induction is on the entries from the last to the first: the last one of a path decides. -/
theorem part?_overlayPaths {entries : List (String × Setting)} (h : LayerEntries entries)
    (hname : name ∈ settingNames) (settings : Setting) :
    part? name (overlayPaths entries settings) =
      (NameTable.last? (settingPath name) entries).or (part? name settings) := by
  induction entries using List.reverseRecOn with
  | nil => rfl
  | append_singleton entries e ih =>
    obtain ⟨hvalue, hpath⟩ := h e (by simp)
    have hbelow := ih fun d hd => h d (by simp [hd])
    rw [NameTable.last?_concat, overlayPaths_concat]
    rcases hpath with hpath | hpath
    · obtain ⟨own, hown, hpath⟩ := List.mem_map.1 hpath
      rw [← hpath, part?_settingPath hown hvalue, hbelow]
      by_cases hsame : name = own <;> simp [hsame, settingPath_inj]
    · have hne : settingPath name ≠ e.1 := by
        intro heq
        exact not_passesBy_settingPath hname (heq ▸ hpath)
      rw [overlayPath, part?_of_passesBy hpath hname, if_neg hne, hbelow]

theorem get?_search_overlayPaths {entries : List (String × Setting)}
    (h : ∀ e ∈ entries, LeadsElsewhere (stepsOf e.1)) (settings : Setting) :
    (overlayPaths entries settings).get? "search" = settings.get? "search" := by
  induction entries using List.reverseRecOn with
  | nil => rfl
  | append_singleton entries e ih =>
    obtain ⟨s, rest, hsteps, hs⟩ := h e (by simp)
    have hbelow := ih fun d hd => h d (by simp [hd])
    rw [overlayPaths_concat, overlayPath, hsteps, get?_search_elsewhere hs, hbelow]

theorem hasTable_overlayPaths {entries : List (String × Setting)} (h : LayerEntries entries)
    (hsettings : HasTable settings) : HasTable (overlayPaths entries settings) := by
  induction entries using List.reverseRecOn with
  | nil => exact hsettings
  | append_singleton entries e ih =>
    obtain ⟨hvalue, hpath⟩ := h e (by simp)
    have hbelow := ih fun d hd => h d (by simp [hd])
    rw [overlayPaths_concat]
    rcases hpath with hpath | hpath
    · obtain ⟨own, hown, hpath⟩ := List.mem_map.1 hpath
      intro part hpart
      rw [← hpath, get?_search_settingPath hown hvalue] at hpart
      exact isTable_iff.2 ⟨_, (Option.some.inj hpart).symm⟩
    · exact hasTable_of_passesBy hpath hbelow

def searchPart (settings : Setting) : Setting := (settings.get? "search").getD absent

theorem ofSettings_eq (h : HasTable settings) :
    ofSettings settings =
      ofParts (searchPart settings) (part? "collection_prefix" settings)
        (part? "default_rows" settings) := by
  cases hpart : settings.get? "search" with
  | none => simp [ofSettings, part?, hpart, ofParts]
  | some part =>
    obtain ⟨fields, rfl⟩ := isTable_iff.1 (h part hpart)
    simp [ofSettings, searchPart, part?, hpart]

/-- The prefix that a setting gives, if it converts; without a setting it is empty. -/
def prefixOf? : Option Setting → Option String
  | none => some ""
  | some s => s.asText?

def rowsOf? : Option Setting → Option (Option UInt64)
  | none => some none
  | some .absent => some none
  | some s => s.asCount?.map some

theorem ofParts_eq (part : Setting) (namePart rowsPart : Option Setting) :
    ofParts part namePart rowsPart =
      match prefixOf? namePart, rowsOf? rowsPart with
      | some collectionPrefix, some defaultRows => .ok { collectionPrefix, defaultRows }
      | _, _ => .error (.unusable part) := by
  rcases namePart with _ | s <;> rcases rowsPart with _ | (_ | _ | _ | _ | _ | _ | _) <;> rfl

theorem ofParts_eq_ok_iff {part : Setting} {namePart rowsPart : Option Setting}
    {c : SearchConfig} :
    ofParts part namePart rowsPart = .ok c ↔
      prefixOf? namePart = some c.collectionPrefix ∧ rowsOf? rowsPart = some c.defaultRows := by
  rw [ofParts_eq]
  rcases c with ⟨collectionPrefix, defaultRows⟩
  cases prefixOf? namePart <;> cases rowsOf? rowsPart <;> simp

theorem ofParts_eq_error_iff {part : Setting} {namePart rowsPart : Option Setting}
    {e : ConfigError} :
    ofParts part namePart rowsPart = .error e ↔
      e = .unusable part ∧ ((∃ s, namePart = some s ∧ s.asText? = none) ∨
        ∃ s, rowsPart = some s ∧ s ≠ .absent ∧ s.asCount? = none) := by
  have hprefix : prefixOf? namePart = none ↔ ∃ s, namePart = some s ∧ s.asText? = none := by
    cases namePart <;> simp [prefixOf?]
  have hrows : rowsOf? rowsPart = none ↔
      ∃ s, rowsPart = some s ∧ s ≠ .absent ∧ s.asCount? = none := by
    rcases rowsPart with _ | (_ | _ | _ | _ | _ | _ | _) <;> simp [rowsOf?]
  rw [ofParts_eq, ← hprefix, ← hrows]
  cases prefixOf? namePart <;> cases rowsOf? rowsPart <;> simp [eq_comm]

def variablePart? (name : String) (assignments : List (String × String)) : Option Setting :=
  (assigned? (settingPath name) (environment assignments)).map Setting.ofVariable

/-- Every variable that counts is for one of the two settings, or it does not matter to them. -/
def VariablesApart (assignments : List (String × String)) : Prop :=
  ∀ variableName ∈ NameTable.names assignments, ∀ path ∈ variablePath? variableName,
    path ∈ settingNames.map settingPath ∨ PassesBy (stepsOf path)

instance (assignments : List (String × String)) : Decidable (VariablesApart assignments) :=
  inferInstanceAs (Decidable (∀ variableName ∈ NameTable.names assignments,
    ∀ path ∈ variablePath? variableName,
      path ∈ settingNames.map settingPath ∨ PassesBy (stepsOf path)))

theorem VariablesApart.layerEntries {assignments : List (String × String)}
    (h : VariablesApart assignments) :
    LayerEntries (variableSettings (environment assignments)) := by
  intro entry hentry
  obtain ⟨e, he, hpath, hvalue⟩ := mem_variableSettings hentry
  exact ⟨hvalue ▸ isTable_ofVariable e.2, h e.1 (mem_names_of_mem_environment he) _ hpath⟩

theorem ofSettings_layers {assignments : List (String × String)} (h : VariablesApart assignments)
    {entries : List (String × Setting)} (hfile : HasTable (overlayPaths entries (.table []))) :
    ofSettings (layers entries assignments) =
      ofParts (searchPart (layers entries assignments))
        ((variablePart? "collection_prefix" assignments).or
          (part? "collection_prefix" (overlayPaths entries (.table []))))
        ((variablePart? "default_rows" assignments).or
          (part? "default_rows" (overlayPaths entries (.table [])))) := by
  have hpart (name : String) (hname : name ∈ settingNames) :
      part? name (layers entries assignments) =
        (variablePart? name assignments).or (part? name (overlayPaths entries (.table []))) := by
    rw [layers, part?_overlayPaths h.layerEntries hname, last?_variableSettings]
    rfl
  have hlaid : HasTable (layers entries assignments) := hasTable_overlayPaths h.layerEntries hfile
  rw [ofSettings_eq hlaid, hpart _ (by simp [settingNames]), hpart _ (by simp [settingNames])]

theorem load_none (assignments : List (String × String)) :
    load none assignments = { result := ofSettings (layers [] assignments) } := rfl

theorem load_of_read {text : String} {entries : List (String × Setting)}
    (h : Toml.read? text = some entries) (assignments : List (String × String)) :
    load (some text) assignments = { result := ofSettings (layers entries assignments) } := by
  simp only [load, build, h]

theorem load_of_not_read {text : String} (h : Toml.read? text = none)
    (assignments : List (String × String)) :
    load (some text) assignments =
      { warning := some (.fileParse (some configPath) text)
        result := (load none assignments).result } := by
  simp only [load, build, h]
  rfl

theorem load_none_eq {assignments : List (String × String)} (h : VariablesApart assignments) :
    load none assignments =
      { result := ofParts (searchPart (layers [] assignments))
          (variablePart? "collection_prefix" assignments)
          (variablePart? "default_rows" assignments) } := by
  have hempty : HasTable (overlayPaths [] (.table [])) := fun part hpart => by cases hpart
  have hnone (name : String) : part? name (overlayPaths [] (.table [])) = none := rfl
  rw [load_none, ofSettings_layers h hempty, hnone, hnone, Option.or_none, Option.or_none]

/-- Variables that lead elsewhere do not matter, whatever the section of the file is. -/
theorem load_eq_ofToml {text : String} {entries : List (String × Setting)}
    (h : Toml.read? text = some entries) {assignments : List (String × String)}
    (helsewhere : ∀ variableName ∈ NameTable.names assignments, ∀ path,
      variablePath? variableName = some path → LeadsElsewhere (stepsOf path)) :
    load (some text) assignments = { result := ofToml text } := by
  have hvariables : ∀ entry ∈ variableSettings (environment assignments),
      LeadsElsewhere (stepsOf entry.1) := by
    intro entry hentry
    obtain ⟨e, he, hpath, -⟩ := mem_variableSettings hentry
    exact helsewhere e.1 (mem_names_of_mem_environment he) _ hpath
  simp only [load_of_read h, ofToml, h, ofSettings, layers]
  rw [get?_search_overlayPaths hvariables]

theorem variablePath?_collectionPrefix :
    variablePath? "LIFEGUARD__SEARCH__COLLECTION_PREFIX" =
      some (settingPath "collection_prefix") := by decide +kernel

theorem variablePath?_defaultRows :
    variablePath? "LIFEGUARD__SEARCH__DEFAULT_ROWS" = some (settingPath "default_rows") := by
  decide +kernel

/-- Each setting is what the variables give, else what the file gives, else missing. A file that is
no TOML is left out with a warning; only a value that counts can fail. -/
theorem load_layers {assignments : List (String × String)} (h : VariablesApart assignments)
    (text : String) :
    let given (name : String) : Option Setting := variablePart? name assignments
    (variablePath? "LIFEGUARD__SEARCH__COLLECTION_PREFIX" =
      some (settingPath "collection_prefix") ∧
    variablePath? "LIFEGUARD__SEARCH__DEFAULT_ROWS" = some (settingPath "default_rows")) ∧
    (∀ name variableName, variablePath? variableName = some (settingPath name) →
      (∀ other ∈ NameTable.names assignments,
        variablePath? other = some (settingPath name) → other = variableName) →
      given name = (NameTable.last? variableName assignments).map Setting.ofVariable) ∧
    (Toml.read? text = none →
      (load (some text) assignments).result = (load none assignments).result ∧
      (load (some text) assignments).warning = some (.fileParse (some configPath) text)) ∧
    (load none assignments).result =
      ofParts (searchPart (layers [] assignments)) (given "collection_prefix")
        (given "default_rows") ∧
    (load none assignments).warning = none ∧
    -- The variables lie over a file that is TOML.
    (∀ entries, Toml.read? text = some entries →
      let file := overlayPaths entries (.table [])
      (load (some text) assignments).warning = none ∧
      (HasTable file →
        (load (some text) assignments).result =
          ofParts (searchPart (layers entries assignments))
            ((given "collection_prefix").or (part? "collection_prefix" file))
            ((given "default_rows").or (part? "default_rows" file))) ∧
      ∀ others : List (String × String),
        (∀ variableName ∈ NameTable.names others, ∀ path,
          variablePath? variableName = some path → LeadsElsewhere (stepsOf path)) →
        load (some text) others = { result := ofToml text }) ∧
    -- Only a setting that is there can fail to convert, and it fails the section.
    ∀ (part : Setting) (namePart rowsPart : Option Setting),
      (∀ c, ofParts part namePart rowsPart = .ok c ↔
        prefixOf? namePart = some c.collectionPrefix ∧ rowsOf? rowsPart = some c.defaultRows) ∧
      ∀ e, ofParts part namePart rowsPart = .error e ↔
        e = .unusable part ∧ ((∃ s, namePart = some s ∧ s.asText? = none) ∨
          ∃ s, rowsPart = some s ∧ s ≠ .absent ∧ s.asCount? = none) := by
  intro given
  refine ⟨⟨variablePath?_collectionPrefix, variablePath?_defaultRows⟩,
    fun name variableName hpath honly => ?_, fun hread => ?_, ?_, rfl,
    fun entries hread => ?_, fun part namePart rowsPart => ?_⟩
  · exact congrArg (Option.map Setting.ofVariable) (assigned?_environment hpath honly)
  · rw [load_of_not_read hread]
    exact ⟨rfl, rfl⟩
  · rw [load_none_eq h]
  · intro file
    refine ⟨by rw [load_of_read hread], fun hfile => ?_, fun others hothers => ?_⟩
    · rw [load_of_read hread]
      exact ofSettings_layers h hfile
    · exact load_eq_ofToml hread hothers
  · exact ⟨fun c => ofParts_eq_ok_iff, fun e => ofParts_eq_error_iff⟩

theorem load_layers_hidden :
    let text := "[Search]\ncollection_prefix = \"dev_\"\ndefault_rows = \"many\"\n"
    let assignments := [("LIFEGUARD__SEARCH__DEFAULT_ROWS", "none"),
      ("LIFEGUARD__SEARCH__REPLICAS__0", "a"), ("UNRELATED__SEARCH__DEFAULT_ROWS", "99"),
      ("LIFEGUARD__SEARCH__DEFAULT_ROWS", "50")]
    VariablesApart assignments ∧
    (load (some text) assignments).result =
      .ok { collectionPrefix := "dev_", defaultRows := some 50 } ∧
    (∃ part, (load (some text) []).result = .error (.unusable part)) ∧
    (load (some "[search") assignments).result = .ok { defaultRows := some 50 } ∧
    (load (some "[search") assignments).warning.isSome = true := by
  intro text assignments
  have hapart : VariablesApart assignments := by decide +kernel
  have hnone : VariablesApart [] := by decide +kernel
  have htext : ∀ entries ∈ Toml.read? text,
      let file := overlayPaths entries (.table [])
      HasTable file ∧
      (prefixOf? ((variablePart? "collection_prefix" assignments).or
          (part? "collection_prefix" file)) = some "dev_" ∧
        rowsOf? ((variablePart? "default_rows" assignments).or (part? "default_rows" file)) =
          some (some 50)) ∧
      rowsOf? ((variablePart? "default_rows" []).or (part? "default_rows" file)) = none := by
    decide +kernel
  obtain ⟨entries, hread⟩ : ∃ entries, Toml.read? text = some entries :=
    Option.isSome_iff_exists.1 (by decide +kernel)
  obtain ⟨htable, hboth, hmany⟩ := htext entries hread
  have hunread : Toml.read? "[search" = none := Option.isNone_iff_eq_none.1 (by decide +kernel)
  obtain ⟨-, -, -, -, -, hfile, hparts⟩ := load_layers hapart text
  obtain ⟨-, -, -, -, -, hfileNone, -⟩ := load_layers hnone text
  obtain ⟨-, -, hbroken, hvariables, -, -, -⟩ := load_layers hapart "[search"
  refine ⟨hapart, ?_, ⟨searchPart (layers entries []), ?_⟩, ?_, ?_⟩
  · rw [(hfile entries hread).2.1 htable]
    exact ((hparts _ _ _).1 _).2 hboth
  · rw [(hfileNone entries hread).2.1 htable, ofParts_eq, hmany]
    cases prefixOf? _ <;> rfl
  · rw [(hbroken hunread).1, hvariables]
    exact ((hparts _ _ _).1 _).2 ⟨by decide +kernel, by decide +kernel⟩
  · rw [(hbroken hunread).2]
    rfl

end SearchConfig
end SearchCriteria
