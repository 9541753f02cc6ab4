import ShaderBuild.Proofs.KeyStream
import ShaderBuild.Proofs.Toml.Keys
import ShaderBuild.Settings.Reading

/-! The settings of a section have what a document says at their places, or the defaults. -/

namespace ShaderBuild

open Toml (Value Members)

/-- The value of a key in a section. -/
def Toml.Members.at? (document : Members) (title name : String) : Option Value :=
  match document.lookup title with
  | some (.table members) => members.lookup name
  | _ => none

/-- The sections of documents. -/
inductive SettingsSection where
  | compiler
  | cache
  | logging
  deriving DecidableEq

namespace SettingsSection

/-- The key of a section in a document. -/
def title : SettingsSection → String
  | compiler => "compiler"
  | cache => "cache"
  | logging => "logging"

/-- What is read from a section. -/
def State : SettingsSection → Type
  | compiler => CompilerSettings
  | cache => CacheSettings
  | logging => LoggingSettings

/-- The part of the settings that a section makes. -/
def part (settings : Settings) : (place : SettingsSection) → place.State
  | compiler => settings.compiler
  | cache => settings.cache
  | logging => settings.logging

/-- The fields of a section. -/
def fields : (place : SettingsSection) → List (Field place.State)
  | compiler => compilerFields
  | cache => cacheFields
  | logging => loggingFields

/-- Reads a section. -/
def read : (place : SettingsSection) → Value → Except Mistyped place.State
  | compiler => sectionOfValue "CompilerConfig" compilerFields {}
  | cache => sectionOfValue "CacheConfig" cacheFields {}
  | logging => sectionOfValue "LoggingConfig" loggingFields {}

end SettingsSection

/-- The settings, each by its key. -/
inductive SettingsKey where
  | spirvVersion
  | debugInfo
  | flipVertexY
  | defines
  | enabled
  | memoryLimitMb
  | diskDirectory
  | level
  | logToFile
  | logFile
  deriving DecidableEq

namespace SettingsKey

/-- The section in which a setting stands. -/
def place : SettingsKey → SettingsSection
  | spirvVersion | debugInfo | flipVertexY | defines => .compiler
  | enabled | memoryLimitMb | diskDirectory => .cache
  | level | logToFile | logFile => .logging

/-- The name of a setting in its section. -/
def name : SettingsKey → String
  | spirvVersion => "spirv_version"
  | debugInfo => "debug_info"
  | flipVertexY => "flip_vertex_y"
  | defines => "defines"
  | enabled => "enabled"
  | memoryLimitMb => "memory_limit_mb"
  | diskDirectory => "disk_dir"
  | level => "level"
  | logToFile => "log_to_file"
  | logFile => "log_file"

/-- What a setting is. -/
def Content : SettingsKey → Type
  | spirvVersion | level | logFile => String
  | debugInfo | flipVertexY | enabled | logToFile => Bool
  | defines => Defines
  | memoryLimitMb => Nat
  | diskDirectory => Option Path

/-- A setting, from what its section makes. -/
def get : (key : SettingsKey) → key.place.State → key.Content
  | spirvVersion => CompilerSettings.spirvVersion
  | debugInfo => CompilerSettings.debugInfo
  | flipVertexY => CompilerSettings.flipVertexY
  | defines => CompilerSettings.defines
  | enabled => CacheSettings.enabled
  | memoryLimitMb => CacheSettings.memoryLimitMb
  | diskDirectory => CacheSettings.diskDirectory
  | level => LoggingSettings.level
  | logToFile => LoggingSettings.logToFile
  | logFile => LoggingSettings.logFile

/-- A setting among all settings. -/
def among (settings : Settings) (key : SettingsKey) : key.Content :=
  key.get (key.place.part settings)

/-- A value of a document is of the right kind for a setting, and this is what it says. Definitions
are a table of texts. -/
def Means : (key : SettingsKey) → Value → key.Content → Prop
  | spirvVersion, value, text => value = .string text
  | debugInfo, value, truth => value = .boolean truth
  | flipVertexY, value, truth => value = .boolean truth
  | defines, value, table => ∃ members : Members, value = .table members ∧
      ∀ name, members.lookup name = (Defines.get? table name).map .string
  | enabled, value, truth => value = .boolean truth
  | memoryLimitMb, value, count => value = .integer (Int.ofNat count)
  | diskDirectory, value, path? => ∃ path : Path, path? = some path ∧ value = .string path.text
  | level, value, text => value = .string text
  | logToFile, value, truth => value = .boolean truth
  | logFile, value, text => value = .string text

end SettingsKey

/-- A document whose sections are tables and whose settings are of the right kinds. Whatever else it
holds is of any kind. -/
structure WellTyped (document : Members) : Prop where
  sections : ∀ (place : SettingsSection) (value : Value),
    document.lookup place.title = some value → ∃ members, value = .table members
  settings : ∀ (key : SettingsKey) (value : Value),
    document.at? key.place.title key.name = some value → ∃ content, key.Means value content

/-- Settings in which each one is what a document says about it, and the default where the document
says nothing about it. -/
def Merges (document : Members) (settings : Settings) : Prop :=
  ∀ key : SettingsKey,
    match document.at? key.place.title key.name with
    | some value => key.Means value (key.among settings)
    | none => key.among settings = key.among {}

section Fields

variable {σ α β : Type} {fields : List (Field σ)} {name : String} {get : σ → α}
  {decode : Value → Except Mistyped α} {members : Members} {start after : σ}

/-- A reading that succeeds after a change succeeded before it. -/
theorem exists_of_map_eq_ok {ε : Type} {read : Except ε α} {change : α → β} {made : β}
    (changed : read.map change = .ok made) : ∃ found, read = .ok found ∧ change found = made := by
  -- A failed reading stays failed.
  cases read with
  | error fault => simp [Except.map] at changed
  | ok found => exact ⟨found, rfl, Except.ok.inj changed⟩

/-- A part of what is made of something read. -/
theorem map_map_eq {ε : Type} (read : Except ε α) (change : α → β) (get : β → σ) :
    (read.map change).map get = read.map fun found => get (change found) := by
  cases read <;> rfl

/-- Nothing is made of something read. -/
theorem map_self {ε : Type} (read : Except ε α) : (read.map fun found => found) = read := by
  cases read <;> rfl

/-- Puts one member of a section into what was read of the others. -/
def putMember (fields : List (Field σ)) (state : σ) (member : String × Value) :
    Except Mistyped σ :=
  match fields.lookup member.1 with
  | some apply => within (.member member.1) (apply state member.2)
  | none => .ok state

/-- The fields leave a part alone, but for the one with a name. -/
def Spared (get : σ → α) (name : String) (fields : List (Field σ)) : Prop :=
  ∀ field ∈ fields, field.1 ≠ name →
    ∀ state value after, field.2 state value = .ok after → get after = get state

/-- One field reads a part of a section, whatever the rest of it is, and the other fields leave that
part alone. -/
structure Governs (fields : List (Field σ)) (name : String) (get : σ → α)
    (decode : Value → Except Mistyped α) : Prop where
  own : ∃ apply, fields.lookup name = some apply ∧
    ∀ state value, (apply state value).map get = decode value
  others : Spared get name fields

/-- There are no fields. -/
theorem Spared.nil : Spared get name [] := by
  simp [Spared]

/-- The field with the name may do anything. -/
theorem Spared.own {apply : σ → Value → Except Mistyped σ} (rest : Spared get name fields) :
    Spared get name ((name, apply) :: fields) :=
  List.forall_mem_cons.mpr ⟨fun apart => absurd rfl apart, rest⟩

/-- A field that puts what it reads elsewhere leaves the part alone. -/
theorem Spared.elsewhere {other : String} {read : Value → Except Mistyped β} {put : σ → β → σ}
    (apart : ∀ state content, get (put state content) = get state)
    (rest : Spared get name fields) :
    Spared get name ((other, fun state value => (read value).map (put state)) :: fields) := by
  -- The field writes what it has read to another part.
  refine List.forall_mem_cons.mpr ⟨fun _ state value after applied => ?_, rest⟩
  obtain ⟨content, -, rfl⟩ := exists_of_map_eq_ok applied
  exact apart state content

/-- What is said about the place of a mistake changes nothing where there is none. -/
theorem within_eq_ok_iff {step : Toml.Step} {read : Except Mistyped α} {found : α} :
    within step read = .ok found ↔ read = .ok found := by
  cases read <;> simp [within, Except.mapError]

/-- A member that no field has changes nothing. -/
theorem putMember_of_unknown {state : σ} {member : String × Value}
    (unknown : fields.lookup member.1 = none) : putMember fields state member = .ok state := by
  rw [putMember, unknown]

/-- The member of a field that can be read can be put into every state. -/
theorem Governs.exists_putMember (governs : Governs fields name get decode) {value : Value}
    {content : α} (decoded : decode value = .ok content) (state : σ) :
    ∃ after, putMember fields state (name, value) = .ok after := by
  -- The own field is the one found, and it fails only where the value cannot be read.
  obtain ⟨apply, found, reads⟩ := governs.own
  obtain ⟨after, applied, -⟩ := exists_of_map_eq_ok ((reads state value).trans decoded)
  refine ⟨after, ?_⟩
  simp only [putMember, found]
  exact within_eq_ok_iff.mpr applied

/-- The own member of a field puts what it says at the field's part. -/
theorem Governs.putMember_own (governs : Governs fields name get decode) {state : σ}
    {value : Value} (put : putMember fields state (name, value) = .ok after) :
    decode value = .ok (get after) := by
  -- What is put at the part is what is read of the value.
  obtain ⟨apply, found, reads⟩ := governs.own
  simp only [putMember, found] at put
  rw [← reads state value, within_eq_ok_iff.mp put]
  rfl

/-- Other members leave a field's part alone. -/
theorem Governs.putMember_other (governs : Governs fields name get decode) {state : σ}
    {member : String × Value} (apart : member.1 ≠ name)
    (put : putMember fields state member = .ok after) : get after = get state := by
  -- An unknown member is skipped; a known one belongs to another field, which spares the part.
  cases found : fields.lookup member.1 with
  | none =>
    rw [putMember_of_unknown found] at put
    rw [Except.ok.inj put]
  | some apply =>
    simp only [putMember, found] at put
    exact governs.others _ (Association.mem_of_lookup found) apart _ _ _ (within_eq_ok_iff.mp put)

/-- After all members of a section are read, a field has what its own member says, wherever that one
stands among the others, and what it had before when there is none. -/
theorem Governs.foldlM (governs : Governs fields name get decode)
    (distinct : (members.map (·.1)).Nodup)
    (read : members.foldlM (putMember fields) start = .ok after) :
    match members.lookup name with
    | some value => decode value = .ok (get after)
    | none => get after = get start := by
  induction members generalizing start with
  | nil =>
    obtain rfl := Except.ok.inj read
    rfl
  | cons member members ih =>
    obtain ⟨fresh, distinct⟩ := List.nodup_cons.mp distinct
    rw [List.foldlM_cons] at read
    obtain ⟨between, put, others⟩ : ∃ between, putMember fields start member = .ok between ∧
        members.foldlM (putMember fields) between = .ok after := by
      cases put : putMember fields start member with
      | error fault => rw [put] at read; simp [bind, Except.bind] at read
      | ok between => rw [put] at read; exact ⟨between, rfl, read⟩
    have behind := ih distinct others
    by_cases own : name = member.1
    · -- No later member has the key, so the part stays as it is.
      subst own
      rw [Association.lookup_of_fresh fresh] at behind
      rw [List.lookup_cons_self, behind]
      exact governs.putMember_own put
    · rw [List.lookup_cons, beq_false_of_ne own]
      cases found : members.lookup name with
      | none =>
        rw [found] at behind
        exact behind.trans (governs.putMember_other (Ne.symm own) put)
      | some value =>
        rw [found] at behind
        exact behind

/-- Members that can each be put into every state can be put there one after the other. -/
theorem exists_foldlM (each : ∀ member ∈ members, ∀ state,
    ∃ after, putMember fields state member = .ok after) (start : σ) :
    ∃ after, members.foldlM (putMember fields) start = .ok after := by
  -- Induction on the members, from the state that the ones before have left.
  induction members generalizing start with
  | nil => exact ⟨start, rfl⟩
  | cons member members ih =>
    obtain ⟨here, behind⟩ := List.forall_mem_cons.mp each
    obtain ⟨between, put⟩ := here start
    obtain ⟨after, others⟩ := ih behind between
    exact ⟨after, by rw [List.foldlM_cons, put]; exact others⟩

end Fields

namespace SettingsKey

/-- Reads the value of a setting. -/
def decode : (key : SettingsKey) → Value → Except Mistyped key.Content
  | spirvVersion | level | logFile => textOfValue
  | debugInfo | flipVertexY | enabled | logToFile => boolOfValue
  | defines => definesOfValue
  | memoryLimitMb => countOfValue
  | diskDirectory => fun value => (pathOfValue value).map some

/-- Each setting has its own field in its section. -/
theorem governs (key : SettingsKey) : Governs key.place.fields key.name key.get key.decode := by
  cases key
  all_goals
    refine ⟨⟨_, rfl, fun state value => ?_⟩, ?_⟩
    · first
      | exact (map_map_eq ..).trans (map_self _)
      | exact map_map_eq ..
    · -- The field of another setting puts what it reads elsewhere.
      repeat first
        | exact .nil
        | refine .own ?_
        | refine .elsewhere (fun _ _ => rfl) ?_

/-- Definitions are read from a table of texts. -/
theorem definesOfValue_table {members : Members} {table : Defines}
    (distinct : (members.map (·.1)).Nodup)
    (texts : ∀ name, members.lookup name = (table.get? name).map .string) :
    definesOfValue (.table members) = .ok table := by
  -- All values are texts, as each of them is found under its name.
  obtain ⟨calls, rfl⟩ : ∃ calls : List (String × String),
      members = calls.map fun call => (call.1, .string call.2) := by
    refine ⟨members.map fun member => (member.1, (table.get? member.1).getD ""), ?_⟩
    rw [List.map_map]
    refine (List.map_id' members).symm.trans (List.map_congr_left fun member among => ?_)
    have found := Association.lookup_of_mem distinct among
    rw [texts member.1] at found
    obtain ⟨text, defined, same⟩ := Option.map_eq_some_iff.mp found
    rw [Function.comp_apply, defined, Option.getD_some, same]
  have names : (calls.map (·.1)).Nodup := by
    rwa [List.map_map] at distinct
  -- One definition after the other is put into the table.
  have reads : ∀ (start : Defines), (calls.map fun call => (call.1, Value.string call.2)).foldlM
      (fun defines member => within (.member member.1)
        ((textOfValue member.2).map fun text => defines.insert member.1 text)) start =
      .ok (calls.foldl (fun defines call => defines.insert call.1 call.2) start) := by
    clear distinct texts names
    induction calls with
    | nil => exact fun start => rfl
    | cons call calls ih => exact fun start => ih (start.insert call.1 call.2)
  rw [definesOfValue, reads]
  refine congrArg Except.ok (Defines.eq_of_get? fun name => ?_)
  rw [Defines.get?_foldl_insert,
    Association.lookup_perm (List.reverse_perm calls) names name]
  have text := texts name
  rw [Association.lookup_map_value (fun _ text => Value.string text)] at text
  refine Eq.trans (Option.or_none) (Option.map_injective (fun _ _ same => ?_) text)
  exact Value.string.inj same

/-- A value of the right kind is read as what it says. -/
theorem decode_of_means {key : SettingsKey} {value : Value} {content : key.Content}
    (distinct : value.Distinct) (meant : key.Means value content) :
    key.decode value = .ok content := by
  -- Three of the keys do more than taking the value as it stands.
  cases key
  case defines =>
    obtain ⟨members, rfl, texts⟩ := meant
    exact definesOfValue_table (Members.distinct_iff.mp distinct).1 texts
  case memoryLimitMb =>
    obtain rfl := meant
    have positive : (0 : Int) ≤ Int.ofNat content := Int.natCast_nonneg content
    rw [decode, countOfValue, if_pos positive]
    rfl
  case diskDirectory =>
    obtain ⟨path, rfl, rfl⟩ := meant
    rfl
  all_goals
    obtain rfl := meant
    rfl

end SettingsKey

namespace SettingsSection

/-- Each section has its own field in a document. -/
theorem governs (place : SettingsSection) :
    Governs sectionFields place.title (fun settings => place.part settings) place.read := by
  cases place
  all_goals
    refine ⟨⟨_, rfl, fun state value => (map_map_eq ..).trans (map_self _)⟩, ?_⟩
    -- The field of another section puts what it reads elsewhere.
    repeat first
      | exact .nil
      | refine .own ?_
      | refine .elsewhere (fun _ _ => rfl) ?_

/-- A section that is a table is read member by member, from its defaults on. -/
theorem read_table (place : SettingsSection) (members : Members) :
    place.read (.table members) = members.foldlM (putMember place.fields) (place.part {}) := by
  cases place <;> rfl

/-- The settings of a section, in the order of its fields. -/
def keys : SettingsSection → List SettingsKey
  | compiler => [.spirvVersion, .debugInfo, .flipVertexY, .defines]
  | cache => [.enabled, .memoryLimitMb, .diskDirectory]
  | logging => [.level, .logToFile, .logFile]

/-- The fields of a section are those of its settings. -/
theorem exists_key {place : SettingsSection} {field : Field place.State}
    (listed : field ∈ place.fields) :
    ∃ key : SettingsKey, key.place = place ∧ key.name = field.1 := by
  -- Fields and keys of a section are listed in the same order under the same names.
  have names : place.fields.map (·.1) = place.keys.map SettingsKey.name := by
    cases place <;> rfl
  have own : ∀ key ∈ place.keys, key.place = place := by
    cases place <;> decide
  have among : field.1 ∈ place.fields.map (·.1) := List.mem_map.mpr ⟨field, listed, rfl⟩
  rw [names] at among
  obtain ⟨key, there, same⟩ := List.mem_map.mp among
  exact ⟨key, own key there, same⟩

/-- The fields of a document are its sections. -/
theorem exists_place {field : Field Settings} (listed : field ∈ sectionFields) :
    ∃ place : SettingsSection, place.title = field.1 := by
  -- The fields stand under the titles of the three sections.
  have names : sectionFields.map (·.1) = [compiler, cache, logging].map title := rfl
  have among : field.1 ∈ sectionFields.map (·.1) := List.mem_map.mpr ⟨field, listed, rfl⟩
  rw [names] at among
  obtain ⟨place, -, same⟩ := List.mem_map.mp among
  exact ⟨place, same⟩

end SettingsSection

section Documents

variable {document : Members} {settings : Settings} {key : SettingsKey} {value : Value}

/-- A section that is there is a table of the document. -/
theorem at?_of_table {title name : String} {members : Members}
    (found : document.lookup title = some (.table members)) :
    document.at? title name = members.lookup name := by
  rw [Members.at?, found]

/-- A section that is there gives each of its settings what it has under the key, and the default
where it does not have the key. -/
theorem among_of_section (distinct : document.Distinct)
    (read : settingsOfMembers document = .ok settings) {members : Members}
    (found : document.lookup key.place.title = some (.table members)) :
    match members.lookup key.name with
    | some value => key.decode value = .ok (key.among settings)
    | none => key.among settings = key.among {} := by
  obtain ⟨titles, inner⟩ := Members.distinct_iff.mp distinct
  have made := key.place.governs.foldlM titles read
  rw [found] at made
  -- The section is read from its defaults on.
  exact key.governs.foldlM (Members.distinct_iff.mp (inner _ (Association.mem_of_lookup found))).1
    ((key.place.read_table members).symm.trans made)

/-- What a document has under the key of a setting is what is read for it. -/
theorem decode_of_settingsOfMembers (distinct : document.Distinct)
    (read : settingsOfMembers document = .ok settings)
    (stated : document.at? key.place.title key.name = some value) :
    key.decode value = .ok (key.among settings) := by
  -- A section that is found was read as a table, and its own keys with it.
  rw [Members.at?] at stated
  split at stated
  · rename_i members found
    have own := among_of_section distinct read found
    rw [stated] at own
    exact own
  · simp at stated

/-- A setting without a key in the document keeps its default, whether its section is there or not.
-/
theorem default_of_settingsOfMembers (distinct : document.Distinct) (typed : WellTyped document)
    (read : settingsOfMembers document = .ok settings)
    (silent : document.at? key.place.title key.name = none) :
    key.among settings = key.among {} := by
  -- Without its section nothing sets the key; with it, the section does not state it.
  cases found : document.lookup key.place.title with
  | none =>
    have kept := key.place.governs.foldlM (Members.distinct_iff.mp distinct).1 read
    rw [found] at kept
    exact congrArg key.get kept
  | some value =>
    obtain ⟨members, rfl⟩ := typed.sections key.place value found
    have own := among_of_section distinct read found
    rw [at?_of_table found] at silent
    rw [silent] at own
    exact own

/-- Settings are read from every document whose sections and settings are of the right kinds. -/
theorem exists_settingsOfMembers (distinct : document.Distinct) (typed : WellTyped document) :
    ∃ settings, settingsOfMembers document = .ok settings := by
  obtain ⟨titles, inner⟩ := Members.distinct_iff.mp distinct
  refine exists_foldlM (fun member among state => ?_) _
  obtain ⟨title, value⟩ := member
  cases found : sectionFields.lookup title with
  | none => exact ⟨state, putMember_of_unknown found⟩
  | some apply =>
    obtain ⟨place, rfl⟩ := SettingsSection.exists_place (Association.mem_of_lookup found)
    have stands := Association.lookup_of_mem titles among
    obtain ⟨members, rfl⟩ := typed.sections place value stands
    have table := Members.distinct_iff.mp (inner _ among)
    -- The section is read when each of its members is.
    obtain ⟨made, read⟩ : ∃ made, place.read (.table members) = .ok made := by
      rw [place.read_table]
      refine exists_foldlM (fun member among state => ?_) _
      obtain ⟨name, value⟩ := member
      cases listed : place.fields.lookup name with
      | none => exact ⟨state, putMember_of_unknown listed⟩
      | some apply =>
        obtain ⟨key, rfl, rfl⟩ := SettingsSection.exists_key (Association.mem_of_lookup listed)
        have stated : document.at? key.place.title key.name = some value :=
          (at?_of_table stands).trans (Association.lookup_of_mem table.1 among)
        obtain ⟨content, meant⟩ := typed.settings key value stated
        exact key.governs.exists_putMember
          (SettingsKey.decode_of_means (table.2 _ among) meant) state
    exact place.governs.exists_putMember read state

/-- A text that gives settings is a document from which they are read, and they have options. -/
theorem parse_eq_ok_iff {text : String} : Settings.parse text = .ok settings ↔
    ∃ nodes options, Toml.parse? text = some nodes ∧
      settingsOfMembers nodes.members = .ok settings ∧ settings.compiler.options = .ok options := by
  -- Three steps can fail, and a text that gives settings passes them all.
  constructor
  · intro given
    unfold Settings.parse at given
    split at given
    · simp at given
    · rename_i nodes document
      split at given
      · simp at given
      · rename_i made read
        split at given
        · simp at given
        · rename_i options accepted
          obtain rfl := Except.ok.inj given
          exact ⟨nodes, options, document, read, accepted⟩
  · rintro ⟨nodes, options, document, read, accepted⟩
    simp only [Settings.parse, document, read, accepted]

end Documents

end ShaderBuild
