import CardServer.Proofs.Json.Soundness
import CardServer.Proofs.Json.Written
import CardServer.Proofs.Settings.Keys
import CardServer.Settings.File

/-! # Where to listen by layers

Host and port are looked for in the variables of the process, then in those of the `.env` file, then
among the entries of the settings file, each of the two by itself; the first value that is found
counts, and it has to convert.  This holds as long as no two sources of one layer speak of one entry:
the entries of the settings file have different plain names, and ignoring case no second variable is
named after host or port or has a name that starts like that.

* `entry?_putAll_filter`   only values whose keys go through an entry count for it
* `entry?_putAll_file`, `entry?_putAll_variables`   what each layer does to an entry
* `map_listener_load_of_isSole`   where to listen is made of two conversions
* `load_by_raw_values`     when loading succeeds, and what it gives
-/

namespace CardServer.Settings

/-! ## Entries put into a table -/

/-- What an entry becomes is a matter of that entry alone. -/
theorem entry?_putAll_congr {entries : List (String × Value)} {name : String}
    {table other : Value} (h : table.entry? name = other.entry? name) :
    Value.entry? (putAll entries table) name = Value.entry? (putAll entries other) name := by
  induction entries generalizing table other with
  | nil => exact h
  | cons entry rest ih => exact ih (Key.entry?_change_congr h)

/-- Only those of some values count for an entry whose keys go through it. -/
theorem entry?_putAll_filter (entries : List (String × Value)) (name : String) (table : Value) :
    Value.entry? (putAll entries table) name =
      Value.entry? (putAll (entries.filter fun entry => (Key.ofText entry.1).touches name) table)
        name := by
  induction entries generalizing table with
  | nil => rfl
  | cons entry rest ih =>
    have hcons : putAll (entry :: rest) table =
        putAll rest ((Key.ofText entry.1).put entry.2 table) := rfl
    cases h : (Key.ofText entry.1).touches name with
    | true =>
      rw [hcons, ih, List.filter_cons, if_pos h]
      rfl
    | false =>
      have hframe : Value.entry? ((Key.ofText entry.1).put entry.2 table) name = table.entry? name :=
        Key.entry?_change_of_not_touches h
      rw [hcons, entry?_putAll_congr hframe, ih, List.filter_cons, if_neg (Bool.eq_false_iff.1 h)]

/-- If at most one key goes through an entry, and does so as its plain name, then the value of that
    key goes over what is there. -/
theorem entry?_putAll_of_values {entries : List (String × Value)} {name : String}
    {values : List Value} {table : Value} (hname : Key.IsName name)
    (hvalues : (entries.filter fun entry => (Key.ofText entry.1).touches name) =
      values.map fun value => (name, value))
    (honce : values.length ≤ 1) :
    Value.entry? (putAll entries table) name =
      (values.head?.map (·.cover (table.entry? name))).or (table.entry? name) := by
  -- All other values can be left out, and then there is none or one.
  rw [entry?_putAll_filter, hvalues]
  match values, honce with
  | [], _ => rfl
  | [value], _ =>
    have hput : putAll [(name, value)] table = (Key.ofText name).put value table := rfl
    rw [List.map_singleton, hput, hname.ofText, Key.put, Key.entry?_change_name,
      if_pos hname.map_toLower]
    rfl

/-- Of items with different keys at most one has some key. -/
theorem length_filter_le_one {α : Type} {items : List α} {key : α → String}
    (h : (items.map key).Nodup) (wanted : String) :
    (items.filter fun item => key item = wanted).length ≤ 1 := by
  have hcount := List.nodup_iff_count.1 h wanted
  rw [List.count_eq_countP, List.countP_map] at hcount
  rw [← List.countP_eq_length_filter]
  exact hcount

/-! ## The settings file -/

/-- The entries of a settings file have plain names, no two the same. -/
structure PlainEntries (file : List (String × Value)) : Prop where
  plain : ∀ entry ∈ file, Key.IsName entry.1
  distinct : (file.map (·.1)).Nodup

/-- The entries of a settings file speak of an entry at most once, and by its plain name. -/
structure HasAlone (file : List (String × Value)) (name : String) : Prop where
  plain : ∀ entry ∈ file, (Key.ofText entry.1).touches name = true → entry.1 = name
  atMostOne : (file.filter fun entry => entry.1 = name).length ≤ 1

theorem PlainEntries.hasAlone {file : List (String × Value)} (h : PlainEntries file)
    (name : String) : HasAlone file name where
  plain entry hentry htouches := by
    rw [(h.plain entry hentry).touches_ofText name] at htouches
    exact of_decide_eq_true htouches
  atMostOne := length_filter_le_one h.distinct name

/-- The one value that a settings file has for an entry goes into an empty table. -/
theorem entry?_putAll_file {file : List (String × Value)} {name : String} (hname : Key.IsName name)
    (hfile : HasAlone file name) :
    Value.entry? (putAll file (.table [])) name =
      (Value.entryOf? name file).map (·.cover none) := by
  have htouches : ∀ entry ∈ file,
      (Key.ofText entry.1).touches name = decide (entry.1 = name) := by
    intro entry hentry
    by_cases hkey : entry.1 = name
    · rw [hkey, hname.touches_ofText name]
    · rw [decide_eq_false hkey]
      exact Bool.eq_false_iff.2 fun h => hkey (hfile.plain entry hentry h)
  have hvalues : (file.filter fun entry => entry.1 = name) =
      ((file.filter fun entry => entry.1 = name).map (·.2)).map fun value => (name, value) := by
    rw [List.map_map]
    refine (List.map_id _).symm.trans (List.map_congr_left fun entry hentry => ?_)
    have hkey : entry.1 = name := by simpa using (List.mem_filter.1 hentry).2
    simp [← hkey]
  have honce : ((file.filter fun entry => entry.1 = name).map (·.2)).length ≤ 1 := by
    rw [List.length_map]
    exact hfile.atMostOne
  have hempty : Value.entry? (.table []) name = none := rfl
  rw [entry?_putAll_of_values hname ((List.filter_congr htouches).trans hvalues) honce,
    List.head?_map, List.head?_filter, hempty, Option.or_none]
  rfl

/-- The entries of a settings file in Json are the members of the object that its text writes. -/
theorem fileEntries_of_isText {name text : String} {members : List (String × Json)}
    (h : Json.Grammar.IsText text.toList (.obj members)) :
    fileEntries (some (.json, name, text)) = .ok (Format.Json.members (.file name) [] members) := by
  have hread : Format.Json.read (.file name) text =
      .ok (.table (Format.Json.members (.file name) [] members)) := by
    rw [Format.Json.read, Json.read_of_isText h]
    simp only [Format.Json.value]
  simp only [fileEntries, FileFormat.entries, FileFormat.read, hread]

/-! ## Variables -/

namespace Environment

/-- The value of a variable by its name in lower case. -/
def anyCase? (environment : Environment) (name : String) : Option String :=
  (environment.entries.find? (·.1.map Char.toLower = name)).map (·.2)

/-- Ignoring case, at most one variable has a name, and no other has one that starts with it. -/
structure HasOnce (environment : Environment) (name : String) : Prop where
  atMostOne :
    (environment.entries.filter fun entry => entry.1.map Char.toLower = name).length ≤ 1
  noLonger : ∀ entry ∈ environment.entries,
    name.toList <+: (entry.1.map Char.toLower).toList → entry.1.map Char.toLower = name

end Environment

/-- The value that a variable gives to a setting. -/
def ofVariable (text : String) : Value := .scalar (some .environment) (.text text)

theorem entriesOfVariables_cons (entry : String × String) (rest : List (String × String)) :
    entriesOfVariables ⟨entry :: rest⟩ =
      ((keyOfVariable? entry.1).map fun key => (key, ofVariable entry.2)).toList ++
        entriesOfVariables ⟨rest⟩ := by
  cases h : keyOfVariable? entry.1 <;> simp [entriesOfVariables, h, ofVariable]

/-- Only the variable that is named after an entry goes through it. -/
theorem filter_entriesOfVariables {entries : List (String × String)} {name : String}
    (hname : Key.IsName name) (hpairs : pointed name.toList = name.toList)
    (hlonger : ∀ entry ∈ entries, ("app__" ++ name).toList <+: (entry.1.map Char.toLower).toList →
      entry.1.map Char.toLower = "app__" ++ name) :
    ((entriesOfVariables ⟨entries⟩).filter fun entry => (Key.ofText entry.1).touches name) =
      ((entries.filter fun entry => entry.1.map Char.toLower = "app__" ++ name).map
        fun entry => ofVariable entry.2).map fun value => (name, value) := by
  have hpoint : '.' ∉ name.toList := fun h => (hname '.' h).1 rfl
  induction entries with
  | nil => rfl
  | cons entry rest ih =>
    have ih := ih fun other hother => hlonger other (List.mem_cons_of_mem _ hother)
    rw [entriesOfVariables_cons, List.filter_append, ih]
    by_cases hlower : entry.1.map Char.toLower = "app__" ++ name
    · simp [keyOfVariable?_of_lower hlower hpairs, hlower, hname.touches_ofText]
    · cases hkey : keyOfVariable? entry.1 with
      | none => simp [hlower]
      | some key =>
        -- A key that went through the entry would come from a name that starts like this one.
        have hother : (Key.ofText key).touches name = false := by
          refine Bool.eq_false_iff.2 fun htouches => hlower ?_
          exact hlonger entry (List.mem_cons_self ..) (prefix_of_touches hkey htouches hpoint)
        simp [hlower, hother]

/-- The variable that is named after an entry goes over it, and no other touches it. -/
theorem entry?_putAll_variables {environment : Environment} {name : String} {table : Value}
    (hname : Key.IsName name) (hpairs : pointed name.toList = name.toList)
    (honce : environment.HasOnce ("app__" ++ name)) :
    Value.entry? (putAll (entriesOfVariables environment) table) name =
      ((environment.anyCase? ("app__" ++ name)).map ofVariable).or (table.entry? name) := by
  have hlength : ((environment.entries.filter fun entry =>
      entry.1.map Char.toLower = "app__" ++ name).map fun entry => ofVariable entry.2).length ≤ 1 := by
    rw [List.length_map]
    exact honce.atMostOne
  rw [entry?_putAll_of_values hname (filter_entriesOfVariables hname hpairs honce.noLonger) hlength,
    List.head?_map, List.head?_filter, Environment.anyCase?, Option.map_map, Option.map_map]
  rfl

/-! ## The variables of a process and of a file -/

/-- A file of variables only adds variables behind those of the process. -/
theorem EnvFile.entries_apply {environment assigned : Environment}
    {lines : List (Option (List Char))} :
    ∃ more, (apply environment assigned lines).entries = environment.entries ++ more := by
  fun_induction apply environment assigned lines with
  | case1 | case2 | case3 => exact ⟨[], (List.append_nil _).symm⟩
  | case4 _ _ _ _ _ ih => exact ih
  | case5 environment _ _ _ name value _ ih =>
    obtain ⟨more, h⟩ := ih
    rw [h, Environment.define]
    split
    · exact ⟨more, rfl⟩
    · exact ⟨(name, value) :: more, by simp⟩

theorem entries_extended (environment : Environment) (envFile : Option ByteArray) :
    ∃ more, (extended environment envFile).entries = environment.entries ++ more := by
  cases envFile with
  | none => exact ⟨[], (List.append_nil _).symm⟩
  | some bytes => exact EnvFile.entries_apply

/-- The process goes before the file. -/
theorem anyCase?_extended (environment : Environment) (envFile : Option ByteArray) (name : String) :
    (environment.anyCase? name).or ((extended environment envFile).anyCase? name) =
      (extended environment envFile).anyCase? name := by
  obtain ⟨more, h⟩ := entries_extended environment envFile
  simp only [Environment.anyCase?, h, List.find?_append, Option.map_or]
  cases (environment.entries.find? (·.1.map Char.toLower = name)).map (·.2) <;> rfl

/-! ## Values that count -/

/-- A table laid over nothing is a table. -/
theorem Value.coverEntries_table (entries existing : List (String × Value)) :
    ∃ all, Value.coverEntries entries (.table existing) = .table all := by
  induction entries generalizing existing with
  | nil => exact ⟨existing, by rw [Value.coverEntries]⟩
  | cons entry rest ih =>
    rw [Value.coverEntries]
    exact ih _

/-- A value laid over nothing stays as it is, unless it is a table, which stays one. -/
theorem Value.cover_none_cases (value : Value) :
    value.cover none = value ∨
      ∃ entries all, value = .table entries ∧ value.cover none = .table all := by
  cases value with
  | scalar | list =>
    left
    rw [Value.cover]
    simp
  | table entries =>
    obtain ⟨all, h⟩ := Value.coverEntries_table entries []
    rw [Value.cover, Option.getD_none]
    exact .inr ⟨entries, all, rfl, h⟩

/-- A value converts to a host as it stands and inside of a table alike. -/
theorem hostOf_cover (value : Value) : hostOf (value.cover none) = hostOf value := by
  rcases value.cover_none_cases with h | ⟨entries, all, rfl, h⟩
  · rw [h]
  · -- No table is a host, whatever is in it.
    rw [h]
    rfl

/-- So it does to a port. -/
theorem portOf_cover (value : Value) : portOf (value.cover none) = portOf value := by
  rcases value.cover_none_cases with h | ⟨entries, all, rfl, h⟩
  · rw [h]
  · rw [h]
    rfl

/-- The listener of settings is that of the whole table; the other settings cannot fail. -/
theorem map_listener_ofLayers (file : List (String × Value)) (environment : Environment) :
    (ofLayers file environment).map (·.listener) = listenerOf (layered file environment) := by
  cases h : listenerOf (layered file environment) with
  | error fault => simp [ofLayers, h, bind, Except.bind, Except.map]
  | ok listener => simp [ofLayers, h, bind, Except.bind, Except.map, pure, Except.pure]

/-- The value of an entry that counts: that of the variable named after the entry, in the process or
    else in the file of variables, or else that of the settings file. -/
def rawValue? (environment : Environment) (directory : Directory) (file : List (String × Value))
    (name : String) : Option Value :=
  (((environment.anyCase? ("app__" ++ name)).or
    ((extended environment directory.envFile?).anyCase? ("app__" ++ name))).map ofVariable).or
    (Value.entryOf? name file)

/-- No two sources of one layer speak of the host or the port; whatever else the settings file has, it
    has under different plain names. -/
structure PlainLayers (environment : Environment) (file : List (String × Value)) : Prop where
  host : environment.HasOnce "app__host"
  port : environment.HasOnce "app__port"
  entries : PlainEntries file

/-- No two sources of one layer speak of an entry. -/
structure IsSole (environment : Environment) (file : List (String × Value)) (name : String) :
    Prop where
  inEnvironment : environment.HasOnce ("app__" ++ name)
  inFile : HasAlone file name

theorem PlainLayers.isSole {environment : Environment} {file : List (String × Value)}
    (h : PlainLayers environment file) :
    IsSole environment file "host" ∧ IsSole environment file "port" :=
  ⟨⟨h.host, h.entries.hasAlone "host"⟩, ⟨h.port, h.entries.hasAlone "port"⟩⟩

/-- An entry of the whole table converts like the value that counts. -/
theorem convert_entry?_layered {α : Type} {read : Value → Except LoadFault α} (absent : α)
    (name : String) {environment : Environment} {directory : Directory}
    {file : List (String × Value)} (hread : ∀ value, read (value.cover none) = read value)
    (hname : Key.IsName name) (hpairs : pointed name.toList = name.toList)
    (hsole : IsSole (extended environment directory.envFile?) file name) :
    convert read absent
        (Value.entry? (layered file (extended environment directory.envFile?)) name) =
      convert read absent (rawValue? environment directory file name) := by
  rw [layered, entry?_putAll_variables hname hpairs hsole.inEnvironment,
    entry?_putAll_file hname hsole.inFile, rawValue?, anyCase?_extended]
  cases (extended environment directory.envFile?).anyCase? ("app__" ++ name) with
  | some text => rfl
  | none =>
    cases Value.entryOf? name file with
    | some value => exact hread value
    | none => rfl

/-- Where to listen is made of two conversions that know nothing of each other. -/
theorem map_listener_load_of_isSole {environment : Environment} {directory : Directory}
    {file : List (String × Value)} (hfile : fileEntries directory.settingsFile? = .ok file)
    (hhost : IsSole (extended environment directory.envFile?) file "host")
    (hport : IsSole (extended environment directory.envFile?) file "port") :
    (load environment directory).map (·.listener) = (do
      let host ← convert hostOf defaultHost (rawValue? environment directory file "host")
      let port ← convert portOf defaultPort (rawValue? environment directory file "port")
      return ⟨host, port⟩) := by
  rw [← convert_entry?_layered defaultHost "host" hostOf_cover (by decide) (by decide) hhost,
    ← convert_entry?_layered defaultPort "port" portOf_cover (by decide) (by decide) hport, load,
    hfile]
  exact map_listener_ofLayers _ _

theorem map_listener_load {environment : Environment} {directory : Directory}
    {file : List (String × Value)} (hfile : fileEntries directory.settingsFile? = .ok file)
    (hplain : PlainLayers (extended environment directory.envFile?) file) :
    (load environment directory).map (·.listener) = (do
      let host ← convert hostOf defaultHost (rawValue? environment directory file "host")
      let port ← convert portOf defaultPort (rawValue? environment directory file "port")
      return ⟨host, port⟩) :=
  map_listener_load_of_isSole hfile hplain.isSole.1 hplain.isSole.2

/-- What a conversion with a default gives. -/
theorem convert_eq_ok_iff {α : Type} {read : Value → Except LoadFault α} {absent result : α}
    {found : Option Value} :
    convert read absent found = .ok result ↔
      (found = none → result = absent) ∧ ∀ value, found = some value → read value = .ok result := by
  cases found with
  | none => simp [convert, eq_comm]
  | some value => simp [convert]

theorem exists_convert_eq_ok_iff {α : Type} {read : Value → Except LoadFault α} {absent : α}
    {found : Option Value} :
    (∃ result, convert read absent found = .ok result) ↔
      ∀ value, found = some value → ∃ result, read value = .ok result := by
  cases found with
  | none => simp [convert]
  | some value => simp [convert]

section

variable {environment : Environment} {directory : Directory} {file : List (String × Value)}

/-- Loading gives a listener exactly if both conversions give its parts. -/
theorem map_listener_load_eq_ok_iff (hfile : fileEntries directory.settingsFile? = .ok file)
    (hplain : PlainLayers (extended environment directory.envFile?) file)
    {listener : Net.HostPort} :
    (load environment directory).map (·.listener) = .ok listener ↔
      convert hostOf defaultHost (rawValue? environment directory file "host") =
        .ok listener.address ∧
      convert portOf defaultPort (rawValue? environment directory file "port") =
        .ok listener.port := by
  obtain ⟨address, port⟩ := listener
  rw [map_listener_load hfile hplain]
  cases convert hostOf defaultHost (rawValue? environment directory file "host") with
  | error fault => simp [bind, Except.bind]
  | ok foundHost =>
    cases convert portOf defaultPort (rawValue? environment directory file "port") with
    | error fault => simp [bind, Except.bind]
    | ok foundPort => simp [bind, Except.bind, pure, Except.pure]

/-- Loading succeeds exactly if both conversions do. -/
theorem exists_load_eq_ok_iff (hfile : fileEntries directory.settingsFile? = .ok file)
    (hplain : PlainLayers (extended environment directory.envFile?) file) :
    (∃ settings, load environment directory = .ok settings) ↔
      (∃ address, convert hostOf defaultHost (rawValue? environment directory file "host") =
        .ok address) ∧
      (∃ port, convert portOf defaultPort (rawValue? environment directory file "port") =
        .ok port) := by
  have hparts (listener : Net.HostPort) :
      (load environment directory).map (·.listener) = .ok listener ↔ _ ∧ _ :=
    map_listener_load_eq_ok_iff hfile hplain
  constructor
  · rintro ⟨settings, hload⟩
    have hboth := (hparts settings.listener).1 (by rw [hload]; rfl)
    exact ⟨⟨_, hboth.1⟩, ⟨_, hboth.2⟩⟩
  · rintro ⟨⟨address, haddress⟩, ⟨port, hport⟩⟩
    have hmap := (hparts ⟨address, port⟩).2 ⟨haddress, hport⟩
    cases hload : load environment directory with
    | error fault =>
      rw [hload] at hmap
      cases hmap
    | ok settings => exact ⟨settings, rfl⟩

/-- Loading by the values of host and port that count, when no two sources of one layer speak of them.
    It succeeds exactly if each of the two is absent or converts; each part of the listener comes
    from its own value alone, or is the default if there is none; a failure is a configuration
    fault.  So nothing else has a say in where to listen: an entry of the settings file under a
    variable of its name, valid or not, the respective other value, or any other variable. -/
theorem load_by_raw_values (hfile : fileEntries directory.settingsFile? = .ok file)
    (hplain : PlainLayers (extended environment directory.envFile?) file) :
    ((∃ settings, load environment directory = .ok settings) ↔
      (∀ value, rawValue? environment directory file "host" = some value →
        ∃ address, hostOf value = .ok address) ∧
      (∀ value, rawValue? environment directory file "port" = some value →
        ∃ port, portOf value = .ok port)) ∧
    (∀ settings, load environment directory = .ok settings →
      (rawValue? environment directory file "host" = none →
        settings.listener.address = .v4 0 0 0 0) ∧
      (∀ value, rawValue? environment directory file "host" = some value →
        hostOf value = .ok settings.listener.address) ∧
      (rawValue? environment directory file "port" = none → settings.listener.port = 11434) ∧
      (∀ value, rawValue? environment directory file "port" = some value →
        portOf value = .ok settings.listener.port)) ∧
    (∀ fault, load environment directory = .error fault →
      fault.fault = .config (.root fault.message)) ∧
    (∀ otherEnvironment otherDirectory otherFile,
      fileEntries otherDirectory.settingsFile? = .ok otherFile →
      PlainLayers (extended otherEnvironment otherDirectory.envFile?) otherFile →
      (∀ name ∈ ["host", "port"], rawValue? otherEnvironment otherDirectory otherFile name =
        rawValue? environment directory file name) →
      (load otherEnvironment otherDirectory).map (·.listener) =
        (load environment directory).map (·.listener)) := by
  refine ⟨?_, ?_, fun _ _ => rfl, ?_⟩
  · rw [exists_load_eq_ok_iff hfile hplain, exists_convert_eq_ok_iff, exists_convert_eq_ok_iff]
  · intro settings hload
    have hmap : (load environment directory).map (·.listener) = .ok settings.listener := by
      rw [hload]
      rfl
    obtain ⟨haddress, hport⟩ := (map_listener_load_eq_ok_iff hfile hplain).1 hmap
    obtain ⟨haddressNone, haddressSome⟩ := convert_eq_ok_iff.1 haddress
    obtain ⟨hportNone, hportSome⟩ := convert_eq_ok_iff.1 hport
    exact ⟨haddressNone, haddressSome, hportNone, hportSome⟩
  · intro otherEnvironment otherDirectory otherFile hotherFile hotherPlain hraw
    rw [map_listener_load hotherFile hotherPlain, map_listener_load hfile hplain,
      hraw "host" (by simp), hraw "port" (by simp)]

end

/-- A port of the process over one of the file of variables over one of the settings file that does not
    convert, and a host that only the settings file has. -/
theorem load_with_port_of_process :
    let environment : Environment := ⟨[("App__Port", "8080"), ("PATH", "/bin")]⟩
    let directory : Directory :=
      { files :=
          [(["srv", ".env"], "App__Port=1\nAPP__MODE=slow\n".toUTF8),
            (["srv", "configuration.json"],
              "\x7b\"host\":\"127.0.0.1\",\"port\":\"http\"\x7d".toUTF8)]
        current := ["srv"] }
    let found : Origin := .file "configuration.json"
    let file : List (String × Value) :=
      [("host", .scalar found (.text "127.0.0.1")), ("port", .scalar found (.text "http"))]
    fileEntries directory.settingsFile? = .ok file ∧
      PlainLayers (extended environment directory.envFile?) file ∧
      ∃ settings, load environment directory = .ok settings ∧
        settings.listener = ⟨.loopback, 8080⟩ := by
  intro environment directory found file
  have hfile : fileEntries directory.settingsFile? = .ok file := by
    let text := "\x7b\"host\":\"127.0.0.1\",\"port\":\"http\"\x7d"
    let members : List (String × Json) := [("host", .str "127.0.0.1"), ("port", .str "http")]
    have hsettings : directory.settingsFile? = some (.json, "configuration.json", text) := by
      decide +kernel
    have hwritten : text.toList = Json.write (.obj members) := by decide +kernel
    have htext : Json.Grammar.IsText text.toList (.obj members) := by
      rw [hwritten]
      refine Json.derives_element (Json.derives_write_obj fun member hmember => ?_)
      obtain ⟨content, hcontent⟩ : ∃ content, member.2 = .str content := by
        simp only [members, List.mem_cons, List.not_mem_nil, or_false] at hmember
        rcases hmember with rfl | rfl <;> exact ⟨_, rfl⟩
      rw [hcontent]
      exact .string (Json.stringText_writeString content)
    rw [hsettings, fileEntries_of_isText htext]
    rfl
  have hvariables : extended environment directory.envFile? =
      ⟨[("App__Port", "8080"), ("PATH", "/bin"), ("APP__MODE", "slow")]⟩ := by decide +kernel
  have hplain : PlainLayers (extended environment directory.envFile?) file := by
    rw [hvariables]
    exact ⟨⟨by decide +kernel, by decide +kernel⟩, ⟨by decide +kernel, by decide +kernel⟩,
      ⟨by simp only [file]; decide +kernel, by simp [file]⟩⟩
  obtain ⟨hsucceeds, hparts, -, -⟩ := load_by_raw_values hfile hplain
  have hhost : rawValue? environment directory file "host" =
      some (.scalar found (.text "127.0.0.1")) := by
    have hnone : Environment.anyCase? ⟨[("App__Port", "8080"), ("PATH", "/bin"),
        ("APP__MODE", "slow")]⟩ ("app__" ++ "host") = none := by decide +kernel
    have hfound : Value.entryOf? "host" file = some (.scalar found (.text "127.0.0.1")) := by
      simp [Value.entryOf?, file]
    rw [rawValue?, anyCase?_extended, hvariables, hnone, hfound]
    rfl
  have hport : rawValue? environment directory file "port" = some (ofVariable "8080") := by
    have hprocess : environment.anyCase? ("app__" ++ "port") = some "8080" := by decide +kernel
    rw [rawValue?, hprocess]
    rfl
  have haddress : hostOf (.scalar found (.text "127.0.0.1")) = .ok .loopback := by
    have htext : Net.Address.ofText? "127.0.0.1" = some .loopback := by decide +kernel
    simp only [hostOf, htext]
  have hnumber : portOf (ofVariable "8080") = .ok 8080 := by
    have htext : (wordNumber? "8080").or (number? "8080") = some 8080 := by decide +kernel
    simp [portOf, numberOf, ofVariable, htext]
  obtain ⟨settings, hload⟩ := hsucceeds.2
    ⟨fun value hvalue => ⟨.loopback, Option.some.inj (hhost.symm.trans hvalue) ▸ haddress⟩,
      fun value hvalue => ⟨8080, Option.some.inj (hport.symm.trans hvalue) ▸ hnumber⟩⟩
  obtain ⟨-, hhostPart, -, hportPart⟩ := hparts settings hload
  have hlistener : settings.listener = ⟨.loopback, 8080⟩ := by
    have hsame : settings.listener.address = .loopback :=
      Except.ok.inj ((hhostPart _ hhost).symm.trans haddress)
    have hsamePort : settings.listener.port = 8080 :=
      Except.ok.inj ((hportPart _ hport).symm.trans hnumber)
    rw [← hsame, ← hsamePort]
  exact ⟨hfile, hplain, settings, hload, hlistener⟩

end CardServer.Settings
