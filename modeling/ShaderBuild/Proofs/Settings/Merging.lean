import ShaderBuild.Proofs.Settings.Sections
import ShaderBuild.Proofs.Settings.VersionText

/-! Settings are the defaults with what a document says put over them. -/

namespace ShaderBuild

open Toml (Value Members)

variable {document other : Members} {settings : Settings} {key : SettingsKey} {value : Value}

section Reading

/-- Settings that are the same one by one are the same. -/
theorem eq_of_among {one two : Settings}
    (same : ∀ key : SettingsKey, key.among one = key.among two) : one = two := by
  -- Each field is what one of the keys asks for.
  obtain ⟨⟨_, _, _, _⟩, ⟨_, _, _⟩, ⟨_, _, _⟩⟩ := one
  obtain ⟨⟨_, _, _, _⟩, ⟨_, _, _⟩, ⟨_, _, _⟩⟩ := two
  simp only [Settings.mk.injEq, CompilerSettings.mk.injEq, CacheSettings.mk.injEq,
    LoggingSettings.mk.injEq]
  exact ⟨⟨same .spirvVersion, same .debugInfo, same .flipVertexY, same .defines⟩,
    ⟨same .enabled, same .memoryLimitMb, same .diskDirectory⟩,
    ⟨same .level, same .logToFile, same .logFile⟩⟩

/-- What stands under a key of a section has no key twice. -/
theorem distinct_of_at? {title name : String} (distinct : document.Distinct)
    (stated : document.at? title name = some value) : value.Distinct := by
  -- The section's members are distinct, and so is each value among them.
  rw [Members.at?] at stated
  split at stated
  · rename_i members found
    have inner := (Members.distinct_iff.mp distinct).2 _ (Association.mem_of_lookup found)
    exact (Members.distinct_iff.mp inner).2 _ (Association.mem_of_lookup stated)
  · simp at stated

/-- From a document whose settings are of the right kinds its own settings are read, over the
defaults, and no others. -/
theorem settingsOfMembers_eq_ok_iff (distinct : document.Distinct) (typed : WellTyped document) :
    settingsOfMembers document = .ok settings ↔ Merges document settings := by
  obtain ⟨made, read⟩ := exists_settingsOfMembers distinct typed
  -- A value means one thing only, which is what is read from it.
  have own : ∀ {key : SettingsKey} {value content}, key.Means value content →
      document.at? key.place.title key.name = some value → content = key.among made := by
    intro key value content meant stated
    have read := decode_of_settingsOfMembers distinct read stated
    rw [SettingsKey.decode_of_means (distinct_of_at? distinct stated) meant] at read
    exact Except.ok.inj read
  have merges : Merges document made := by
    intro key
    split
    · rename_i value stated
      obtain ⟨content, meant⟩ := typed.settings key value stated
      exact own meant stated ▸ meant
    · exact default_of_settingsOfMembers distinct typed read ‹_›
  rw [read]
  constructor
  · intro same
    exact Except.ok.inj same ▸ merges
  · intro merges'
    -- Both have what the document says, or the default.
    refine congrArg Except.ok (eq_of_among fun key => ?_)
    have here := merges key
    have there := merges' key
    cases stated : document.at? key.place.title key.name with
    | none =>
      rw [stated] at here there
      exact here.trans there.symm
    | some value =>
      rw [stated] at there
      exact (own there stated).symm

end Reading

/-- One step in which a document is written in another way: members change places, or something is
added that no setting is read from. -/
inductive Rewording : Members → Members → Prop
  | moveSections {document other : Members} (moved : document.Perm other) :
    Rewording document other
  | addSection {document : Members} {title : String} {value : Value}
    (unknown : ∀ place : SettingsSection, place.title ≠ title)
    (fresh : document.lookup title = none) (distinct : value.Distinct) :
    Rewording document ((title, value) :: document)
  /-- A section is opened, and nothing stands in it yet. -/
  | openSection {document : Members} (place : SettingsSection)
    (fresh : document.lookup place.title = none) :
    Rewording document ((place.title, .table []) :: document)
  | moveKeys {before after members others : Members} {title : String}
    (moved : members.Perm others) :
    Rewording (before ++ (title, .table members) :: after)
      (before ++ (title, .table others) :: after)
  | addKey {before after members : Members} {place : SettingsSection} {name : String}
    {value : Value} (unknown : ∀ key : SettingsKey, key.place = place → key.name ≠ name)
    (fresh : members.lookup name = none) (distinct : value.Distinct) :
    Rewording (before ++ (place.title, .table members) :: after)
      (before ++ (place.title, .table ((name, value) :: members)) :: after)
  | moveDefines {before after first last members others : Members} (moved : members.Perm others) :
    Rewording
      (before ++ ("compiler", .table (first ++ ("defines", .table members) :: last)) :: after)
      (before ++ ("compiler", .table (first ++ ("defines", .table others) :: last)) :: after)

/-- Values that mean the same for a setting. -/
def SettingsKey.Alike (key : SettingsKey) (value other : Value) : Prop :=
  ∀ content, key.Means value content ↔ key.Means other content

/-- Documents that say the same about every setting. -/
structure SaysSame (document other : Members) : Prop where
  sections : ∀ place : SettingsSection,
    (∀ value, document.lookup place.title = some value → ∃ members, value = .table members) →
    ∀ value, other.lookup place.title = some value → ∃ members, value = .table members
  settings : ∀ key : SettingsKey, Option.Rel key.Alike
    (document.at? key.place.title key.name) (other.at? key.place.title key.name)

section Content

/-- What is found under no key or under one is alike to itself. -/
theorem alike_of_eq {found found' : Option Value} (same : found = found') :
    Option.Rel key.Alike found found' := by
  -- Every value is alike to itself: it has the same contents.
  subst same
  cases found with
  | none => exact .none
  | some value => exact .some fun content => Iff.rfl

/-- Documents that say the same are of the right kinds together. -/
theorem SaysSame.wellTyped (same : SaysSame document other) (typed : WellTyped document) :
    WellTyped other := by
  refine ⟨fun place => same.sections place (typed.sections place), fun key value stated => ?_⟩
  have alike := same.settings key
  have kinds := typed.settings key
  rw [stated] at alike
  -- What this document states under the key is any value that is alike to the stated one.
  generalize document.at? key.place.title key.name = earlier at alike kinds
  cases alike with
  | @some before _ alike =>
    obtain ⟨content, meant⟩ := kinds before rfl
    exact ⟨content, (alike content).mp meant⟩

/-- Documents that say the same are merged into the same settings. -/
theorem SaysSame.merges (same : SaysSame document other) (merges : Merges document settings) :
    Merges other settings := by
  -- Each key is stated in both documents or in neither, and alike values have the same contents.
  intro key
  have alike := same.settings key
  have own := merges key
  generalize document.at? key.place.title key.name = earlier at alike own
  generalize other.at? key.place.title key.name = later at alike ⊢
  cases alike with
  | none => exact own
  | some alike => exact (alike _).mp own

/-- Documents in which the same is found under every section say the same. -/
theorem saysSame_of_lookup
    (same : ∀ place : SettingsSection, other.lookup place.title = document.lookup place.title) :
    SaysSame document other := by
  -- What is found under the same section is found under its keys.
  refine ⟨fun place typed => (same place).symm ▸ typed, fun key => alike_of_eq ?_⟩
  rw [Members.at?, Members.at?, same]

end Content

section Middle

variable {before after : Members} {title : String}

/-- A member in the middle of others is the only one of its key, and any other value can stand in
its place. -/
theorem distinct_middle (distinct : Members.Distinct (before ++ (title, value) :: after)) :
    before.lookup title = none ∧ value.Distinct ∧
      ∀ {replaced : Value}, replaced.Distinct →
        Members.Distinct (before ++ (title, replaced) :: after) := by
  -- The list of keys does not change when the value is replaced.
  obtain ⟨keys, inner⟩ := Members.distinct_iff.mp distinct
  refine ⟨?_, inner (title, value) (by simp), fun {replaced} own => ?_⟩
  · refine Association.lookup_of_fresh fun among => ?_
    rw [List.map_append, List.map_cons, List.nodup_append] at keys
    exact keys.2.2 title among title List.mem_cons_self rfl
  · refine Members.distinct_iff.mpr ⟨by simpa using keys, fun member among => ?_⟩
    rcases List.mem_append.mp among with among | among
    · exact inner member (List.mem_append_left _ among)
    · rcases List.mem_cons.mp among with rfl | among
      · exact own
      · exact inner member (List.mem_append_right _ (List.mem_cons_of_mem _ among))

/-- What is found under the key of a member in the middle of others, and under other keys. -/
theorem lookup_middle (fresh : before.lookup title = none) (sought : String) :
    List.lookup sought (before ++ (title, value) :: after) =
      if sought = title then some value else (before ++ after).lookup sought := by
  -- The members before it do not have its key, so its own value is found first.
  rw [List.lookup_append, List.lookup_cons, List.lookup_append]
  split_ifs with own
  · rw [own, fresh, Option.none_or, beq_self_eq_true]
  · rw [beq_false_of_ne own]

/-- A section whose settings are alike can be put in the place of another one. -/
theorem saysSame_of_section {members others : Members}
    (fresh : before.lookup title = none)
    (alike : ∀ key : SettingsKey, key.place.title = title →
      Option.Rel key.Alike (members.lookup key.name) (others.lookup key.name)) :
    SaysSame (before ++ (title, .table members) :: after)
      (before ++ (title, .table others) :: after) := by
  -- Under other titles both documents have the same, and under this one what is alike.
  refine ⟨fun place typed value found => ?_, fun key => ?_⟩
  · rw [lookup_middle fresh] at found
    split_ifs at found with own
    · exact ⟨others, (Option.some.inj found).symm⟩
    · refine typed value ?_
      rw [lookup_middle fresh, if_neg own]
      exact found
  · rw [Members.at?, Members.at?, lookup_middle fresh, lookup_middle fresh]
    split_ifs with own
    · exact alike key own
    · exact alike_of_eq rfl

end Middle

/-- A section is known by its title. -/
theorem SettingsSection.eq_of_title {place other : SettingsSection}
    (same : place.title = other.title) : place = other := by
  -- The three titles differ.
  cases place <;> cases other <;> first | rfl | exact absurd same (by decide)

/-- The setting of definitions is known by its name. -/
theorem SettingsKey.eq_defines {key : SettingsKey} (named : key.name = "defines") :
    key = .defines := by
  -- No other key has that name.
  cases key <;> first | rfl | exact absurd named (by decide)

/-- Definitions mean the same in every order. -/
theorem alike_defines {members others : Members} (moved : members.Perm others)
    (distinct : (others.map (·.1)).Nodup) :
    SettingsKey.defines.Alike (.table members) (.table others) := by
  -- A table whose names are distinct is found the same in every order.
  intro table
  have same : ∀ name, members.lookup name = others.lookup name :=
    Association.lookup_perm moved distinct
  constructor
  · rintro ⟨_, whole, texts⟩
    obtain rfl := Value.table.inj whole
    exact ⟨others, rfl, fun name => (same name).symm.trans (texts name)⟩
  · rintro ⟨_, whole, texts⟩
    obtain rfl := Value.table.inj whole
    exact ⟨members, rfl, fun name => (same name).trans (texts name)⟩

/-- A table can be put in order anew. -/
theorem distinct_of_perm {members others : Members} (moved : members.Perm others)
    (distinct : members.Distinct) : others.Distinct := by
  -- Distinct keys are distinct in every order, and the values are the same ones.
  obtain ⟨keys, inner⟩ := Members.distinct_iff.mp distinct
  exact Members.distinct_iff.mpr ⟨(moved.map _).nodup_iff.mp keys,
    fun member among => inner member (moved.symm.subset among)⟩

/-- A new member can be added to a table. -/
theorem distinct_cons {members : Members} {name : String} (distinct : members.Distinct)
    (fresh : members.lookup name = none) (own : value.Distinct) :
    Members.Distinct ((name, value) :: members) := by
  -- The new key is not among the others, for a lookup would have found it.
  obtain ⟨keys, inner⟩ := Members.distinct_iff.mp distinct
  refine Members.distinct_iff.mpr ⟨List.nodup_cons.mpr ⟨fun among => ?_, keys⟩,
    List.forall_mem_cons.mpr ⟨own, inner⟩⟩
  obtain ⟨member, there, rfl⟩ := List.mem_map.mp among
  exact absurd rfl (bne_iff_ne.mp (List.lookup_eq_none_iff.mp fresh member there))

/-- A document that is written in another way says the same. -/
theorem Rewording.saysSame (reworded : Rewording document other) (distinct : document.Distinct) :
    other.Distinct ∧ SaysSame document other := by
  -- What moves is still found under its key, and what is new stands under the key of no setting.
  cases reworded with
  | moveSections moved =>
    have moved_ := distinct_of_perm moved distinct
    refine ⟨moved_, saysSame_of_lookup fun place => ?_⟩
    exact (Association.lookup_perm moved (Members.distinct_iff.mp moved_).1 _).symm
  | addSection unknown fresh own =>
    refine ⟨distinct_cons distinct fresh own, saysSame_of_lookup fun place => ?_⟩
    rw [List.lookup_cons, beq_false_of_ne (unknown place)]
  | openSection place fresh =>
    refine ⟨distinct_cons distinct fresh (.table List.nodup_nil (by simp)), ?_⟩
    refine ⟨fun other typed value found => ?_, fun key => ?_⟩
    · by_cases own : other.title = place.title
      · rw [own, List.lookup_cons_self] at found
        exact ⟨[], (Option.some.inj found).symm⟩
      · rw [List.lookup_cons, beq_false_of_ne own] at found
        exact typed value found
    · refine alike_of_eq ?_
      by_cases own : key.place.title = place.title
      · rw [Members.at?, Members.at?, own, fresh, List.lookup_cons_self]
        rfl
      · rw [Members.at?, Members.at?, List.lookup_cons, beq_false_of_ne own]
  | moveKeys moved =>
    obtain ⟨fresh, inner, replace⟩ := distinct_middle distinct
    have table := distinct_of_perm moved inner
    refine ⟨replace table, saysSame_of_section fresh fun key _ => alike_of_eq ?_⟩
    exact Association.lookup_perm moved (Members.distinct_iff.mp table).1 _
  | addKey unknown fresh own =>
    obtain ⟨first, inner, replace⟩ := distinct_middle distinct
    refine ⟨replace (distinct_cons inner fresh own), saysSame_of_section first fun key here => ?_⟩
    have apart := unknown key (SettingsSection.eq_of_title here)
    refine alike_of_eq ?_
    rw [List.lookup_cons, beq_false_of_ne apart]
  | moveDefines moved =>
    obtain ⟨fresh, inner, replace⟩ := distinct_middle distinct
    obtain ⟨fresh', inner', replace'⟩ := distinct_middle inner
    have table := distinct_of_perm moved inner'
    refine ⟨replace (replace' table), saysSame_of_section fresh fun key _ => ?_⟩
    rw [lookup_middle fresh', lookup_middle fresh']
    split_ifs with named
    · obtain rfl := SettingsKey.eq_defines named
      exact .some (alike_defines moved (Members.distinct_iff.mp table).1)
    · exact alike_of_eq rfl

/-- However often a document is written in another way, the settings that are read stay. -/
theorem read_of_rewordings (distinct : document.Distinct) (typed : WellTyped document)
    (reworded : Relation.ReflTransGen Rewording document other)
    (merges : Merges document settings) : settingsOfMembers other = .ok settings := by
  -- Each step keeps the keys distinct, the kinds of the settings and what they are merged into.
  have kept : other.Distinct ∧ WellTyped other ∧ Merges other settings := by
    induction reworded with
    | refl => exact ⟨distinct, typed, merges⟩
    | tail _ step ih =>
      obtain ⟨distinct, typed, merges⟩ := ih
      obtain ⟨distinct', same⟩ := step.saysSame distinct
      exact ⟨distinct', same.wellTyped typed, same.merges merges⟩
  exact (settingsOfMembers_eq_ok_iff kept.1 kept.2.1).mpr kept.2.2

/-- The options of compiles have the version that is named, and the other settings as they are. -/
theorem options_of_namesVersion {compiler : CompilerSettings} {version : UInt8 × UInt8}
    (named : NamesVersion compiler.spirvVersion version) :
    compiler.options = .ok
      { stage := none, spirvVersion := version, debugInfo := compiler.debugInfo,
        flipVertexY := compiler.flipVertexY, defines := compiler.defines } := by
  -- The version is the only setting that has to be read from a text.
  rw [CompilerSettings.options, parseVersion_eq_ok_iff.mpr named]
  rfl

/-- A document whose sections are tables, whose settings are of the right kinds and whose version
can be written for gives settings: each of them is what the document says about it, or the default.
They stay the same when members change places and unknown ones are added, whichever text stands for
the document. The options of compiles have the named version and no stage, and the cache has no
limit exactly when the limit is zero. -/
theorem settings_follow_document (distinct : document.Distinct) (typed : WellTyped document)
    (named : ∀ text, document.at? "compiler" "spirv_version" = some (.string text) →
      ∃ version, NamesVersion text version) :
    ∃ settings version, Merges document settings ∧
      (∀ other, Relation.ReflTransGen Rewording document other →
        settingsOfMembers other = .ok settings ∧
        ∀ text nodes, Toml.parse? text = some nodes → nodes.members = other →
          Settings.parse text = .ok settings) ∧
      NamesVersion settings.compiler.spirvVersion version ∧
      settings.compiler.options = .ok
        { stage := none, spirvVersion := version, debugInfo := settings.compiler.debugInfo,
          flipVertexY := settings.compiler.flipVertexY, defines := settings.compiler.defines } ∧
      (settings.cache.memoryLimit = none ↔ settings.cache.memoryLimitMb = 0) ∧
      (settings.cache.memoryLimitMb ≠ 0 → settings.cache.memoryLimit =
        some (min (settings.cache.memoryLimitMb * 2 ^ 20) (2 ^ 64 - 1))) := by
  obtain ⟨settings, read⟩ := exists_settingsOfMembers distinct typed
  have merges := (settingsOfMembers_eq_ok_iff distinct typed).mp read
  -- The version is the one of the document, or the default.
  obtain ⟨version, names⟩ : ∃ version, NamesVersion settings.compiler.spirvVersion version := by
    have own := merges .spirvVersion
    split at own
    · rename_i value stated
      obtain rfl := own
      exact named _ stated
    · have default_ : settings.compiler.spirvVersion = "1.0" := own
      exact ⟨(1, 0), default_ ▸ parseVersion_eq_ok_iff.mp (by decide)⟩
  have options := options_of_namesVersion names
  refine ⟨settings, version, merges, fun other reworded => ?_, names, options, ?_, ?_⟩
  · have again := read_of_rewordings distinct typed reworded merges
    refine ⟨again, fun text nodes document same => ?_⟩
    exact parse_eq_ok_iff.mpr ⟨nodes, _, document, same ▸ again, options⟩
  · simp [CacheSettings.memoryLimit]
  · intro limited
    exact if_neg limited

/-- A few settings. -/
def brief : Members :=
  [("compiler", .table [("spirv_version", .string " +1.06 "),
      ("defines", .table [("FOG", .string "1"), ("LIGHTS", .string "4")])]),
    ("cache", .table [("memory_limit_mb", .integer 0x7FFFFFFFFFFFFFFF)])]

/-- The same settings the other way round, with an empty section, an unknown section and an unknown
key. -/
def rambling : Members :=
  [("cache", .table [("memory_limit_mb", .integer 0x7FFFFFFFFFFFFFFF)]),
    ("compiler", .table [("defines", .table [("LIGHTS", .string "4"), ("FOG", .string "1")]),
      ("spirv_version", .string " +1.06 "), ("color", .integer 3)]),
    ("logging", .table []), ("extra", .table [("deep", .boolean true)])]

/-- A text for them. -/
def ramblingText : String :=
  "[cache]\nmemory_limit_mb = 0x7FFFFFFFFFFFFFFF\n[compiler]\ndefines.LIGHTS = '4'\n" ++
    "defines.FOG = '1'\nspirv_version = ' +1.06 '\ncolor = 3\n[logging]\n[extra]\ndeep = true\n"

/-- One comes from the other step by step. -/
theorem rewordings_brief : Relation.ReflTransGen Rewording brief rambling := by
  -- One rewording after the other: sections are added, then members, then all are put in another
  -- order.
  have unknown : ∀ place : SettingsSection, place.title ≠ "extra" := by
    intro place
    cases place <;> decide
  have foreign_ : ∀ key : SettingsKey, key.place = .compiler → key.name ≠ "color" := by
    intro key _
    cases key <;> decide
  have deep : (Value.table [("deep", .boolean true)]).Distinct :=
    .table (by decide) (List.forall_mem_singleton.mpr (.boolean true))
  let version : String × Value := ("spirv_version", .string " +1.06 ")
  let color : String × Value := ("color", .integer 3)
  let before : Members :=
    [("extra", .table [("deep", .boolean true)]), ("logging", .table [])]
  let after : Members := [("cache", .table [("memory_limit_mb", .integer 0x7FFFFFFFFFFFFFFF)])]
  let document (members : Members) : Members := before ++ ("compiler", .table members) :: after
  calc
    Relation.ReflTransGen Rewording brief
        (document [version, ("defines", .table [("FOG", .string "1"), ("LIGHTS", .string "4")])]) :=
      .tail (.single (.openSection .logging rfl)) (.addSection unknown rfl deep)
    Relation.ReflTransGen Rewording _ (document
        [color, version, ("defines", .table [("FOG", .string "1"), ("LIGHTS", .string "4")])]) :=
      .single (@Rewording.addKey before after _ .compiler _ _ foreign_ rfl (.integer 3))
    Relation.ReflTransGen Rewording _ (document
        [color, version, ("defines", .table [("LIGHTS", .string "4"), ("FOG", .string "1")])]) :=
      .single (@Rewording.moveDefines before after [color, version] [] _ _ (.swap ..))
    Relation.ReflTransGen Rewording _ (document
        [("defines", .table [("LIGHTS", .string "4"), ("FOG", .string "1")]), version, color]) :=
      .single (.moveKeys (List.reverse_perm _).symm)
    Relation.ReflTransGen Rewording _ rambling :=
      .single (.moveSections (List.reverse_perm _).symm)

/-- The text is that document. -/
theorem parse?_ramblingText :
    (Toml.parse? ramblingText).map Toml.Nodes.members = some rambling := by
  -- The whole text is parsed here, once.
  decide +kernel

/-- The definitions of both. -/
def twoDefines : Defines :=
  .ofList [("FOG", "1"), ("LIGHTS", "4")]

/-- The few settings have no key twice and are of the right kinds. -/
theorem brief_wellTyped : Members.Distinct brief ∧ WellTyped brief := by
  -- Every section and every key is looked up in the document, which is short.
  have texts : (Value.table [("FOG", .string "1"), ("LIGHTS", .string "4")]).Distinct :=
    .table (by decide) (List.forall_mem_cons.mpr ⟨.string _,
      List.forall_mem_singleton.mpr (.string _)⟩)
  refine ⟨.table (by decide) (List.forall_mem_cons.mpr
    ⟨.table (by decide) (List.forall_mem_cons.mpr ⟨.string _, List.forall_mem_singleton.mpr texts⟩),
      List.forall_mem_singleton.mpr (.table (by decide)
        (List.forall_mem_singleton.mpr (.integer _)))⟩), ?_, ?_⟩
  · intro place value found
    cases place with
    | compiler | cache => exact ⟨_, (Option.some.inj found).symm⟩
    | logging => exact (Option.some_ne_none value found.symm).elim
  · intro key value stated
    cases key with
    | spirvVersion => exact ⟨_, (Option.some.inj stated).symm⟩
    | defines =>
      obtain rfl := Option.some.inj stated
      exact ⟨twoDefines, _, rfl, fun name =>
        Association.lookup_map_value (fun _ text => Value.string text) name
          [("FOG", "1"), ("LIGHTS", "4")]⟩
    | memoryLimitMb => exact ⟨(0x7FFFFFFFFFFFFFFF : Nat), (Option.some.inj stated).symm⟩
    | debugInfo | flipVertexY | enabled | diskDirectory | level | logToFile | logFile =>
      exact (Option.some_ne_none value stated.symm).elim

/-- The text with everything else in it gives the few settings over the defaults. -/
theorem settings_follow_document_of_rambling :
    Members.Distinct brief ∧ WellTyped brief ∧
      (∀ text, brief.at? "compiler" "spirv_version" = some (.string text) →
        ∃ version, NamesVersion text version) ∧
      Relation.ReflTransGen Rewording brief rambling ∧
      ∃ settings, Settings.parse ramblingText = .ok settings ∧
        settings = { compiler := { spirvVersion := " +1.06 ", defines := twoDefines },
                     cache := { memoryLimitMb := 0x7FFFFFFFFFFFFFFF } } ∧
        settings.compiler.options = .ok { spirvVersion := (1, 6), defines := twoDefines } ∧
        settings.cache.memoryLimit = some (2 ^ 64 - 1) := by
  -- The document is distinct, well typed and names a version; the settings are then computed.
  obtain ⟨distinct, typed⟩ := brief_wellTyped
  have sixth : NamesVersion " +1.06 " (1, 6) := parseVersion_eq_ok_iff.mp (by decide)
  have named : ∀ text, brief.at? "compiler" "spirv_version" = some (.string text) →
      ∃ version, NamesVersion text version := by
    intro text stated
    obtain rfl := Value.string.inj (Option.some.inj stated)
    exact ⟨(1, 6), sixth⟩
  obtain ⟨settings, version, -, stays, names, options, -, limited⟩ :=
    settings_follow_document distinct typed named
  obtain ⟨nodes, document, members⟩ := Option.map_eq_some_iff.mp parse?_ramblingText
  have same : settings = { compiler := { spirvVersion := " +1.06 ", defines := twoDefines },
                           cache := { memoryLimitMb := 0x7FFFFFFFFFFFFFFF } } :=
    Except.ok.inj ((stays brief .refl).1.symm.trans rfl)
  refine ⟨distinct, typed, named, rewordings_brief, settings,
    (stays rambling rewordings_brief).2 _ nodes document members, same, ?_, ?_⟩
  · have parsed := (parseVersion_eq_ok_iff.mpr names).symm
    rw [same, parseVersion_eq_ok_iff.mpr sixth] at parsed
    rw [options, same, Except.ok.inj parsed]
  · rw [limited (by rw [same]; decide), same]
    decide

end ShaderBuild
