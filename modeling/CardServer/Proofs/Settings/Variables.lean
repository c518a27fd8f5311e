import CardServer.Proofs.Net.Spelling
import CardServer.Proofs.Settings.EnvFile
import CardServer.Proofs.Settings.Port

/-! # Settings as variables

Whatever settings were loaded from, variables alone can say the same: the address and the port as their
texts, and the three texts as they are, since none of them is empty.  Loaded from these variables, in
whatever order they stand and where no file adds anything, the settings are the same again.

* `texts_ne_empty_of_load`     no text of loaded settings is empty
* `hasOnce_asVariables`        the variables speak of host and port once
* `load_of_perm_asVariables`   settings are loaded back from their variables
* `load_asVariables_of_load`   both for all settings that can be loaded
-/

namespace CardServer.Settings

/-- The variables that say what some settings say. -/
def asVariables (settings : Settings) : List (String × String) :=
  [("APP__HOST", settings.listener.address.text),
    ("APP__PORT", toString settings.listener.port.toNat),
    ("SERVICE_NAME", settings.serviceName), ("LOG_LEVEL", settings.logLevel)] ++
  (settings.collector.map fun text => ("OTLP_ENDPOINT", text)).toList

/-- Settings of which no text is empty. -/
structure HasTexts (settings : Settings) : Prop where
  serviceName : settings.serviceName ≠ ""
  logLevel : settings.logLevel ≠ ""
  collector : settings.collector ≠ some ""

/-! ## Texts -/

namespace Environment

theorem nonEmpty?_ne {environment : Environment} {name : String} :
    environment.nonEmpty? name ≠ some "" := by
  intro h
  have hne := (Option.filter_eq_some_iff.1 h).2
  exact absurd hne (by decide)

theorem nonEmpty?_getD_ne {environment : Environment} {name absent : String} (h : absent ≠ "") :
    (environment.nonEmpty? name).getD absent ≠ "" := by
  cases hfound : environment.nonEmpty? name with
  | none => exact h
  | some text =>
    rintro rfl
    exact nonEmpty?_ne hfound

/-- A variable that is not empty counts as it is. -/
theorem nonEmpty?_of_get? {environment : Environment} {name text : String}
    (h : environment.get? name = some text) (hne : text ≠ "") :
    environment.nonEmpty? name = some text := by
  rw [nonEmpty?, h, Option.filter_some, if_pos (by simpa using hne)]

end Environment

/-- An empty text counts as none when settings are loaded, so no text of theirs is empty. -/
theorem texts_ne_empty_of_load {environment : Environment} {directory : Directory}
    {settings : Settings} (h : load environment directory = .ok settings) : HasTexts settings := by
  obtain ⟨hservice, hlevel, hcollector⟩ := texts_of_load h
  constructor
  · rw [hservice]
    exact Environment.nonEmpty?_getD_ne (by decide)
  · rw [hlevel]
    exact Environment.nonEmpty?_getD_ne (by decide)
  · rw [hcollector]
    exact Environment.nonEmpty?_ne

/-! ## Variables -/

theorem nodup_asVariables (settings : Settings) : (settings.asVariables.map (·.1)).Nodup := by
  cases h : settings.collector <;>
    simp only [asVariables, h, Option.map_none, Option.map_some, Option.toList_none,
      Option.toList_some, List.map_append, List.map_cons, List.map_nil] <;>
    decide

/-- The names of the variables in lower case. -/
theorem map_toLower_asVariables (settings : Settings) :
    (settings.asVariables.map fun entry => entry.1.map Char.toLower) =
      ["app__host", "app__port", "service_name", "log_level"] ++
        (settings.collector.map fun _ => "otlp_endpoint").toList := by
  cases h : settings.collector <;>
    simp only [asVariables, h, Option.map_none, Option.map_some, Option.toList_none,
      Option.toList_some, List.map_append, List.map_cons, List.map_nil] <;>
    decide +kernel

/-- The variables speak of the host and of the port once. -/
theorem hasOnce_asVariables (settings : Settings) {name : String}
    (h : name ∈ ["app__host", "app__port"]) : Environment.HasOnce ⟨settings.asVariables⟩ name where
  atMostOne := by
    refine length_filter_le_one ?_ name
    rw [map_toLower_asVariables]
    cases settings.collector <;> simp only [Option.map_none, Option.map_some] <;> decide
  noLonger := by
    have hnames : ∀ other ∈ settings.asVariables.map fun entry => entry.1.map Char.toLower,
        name.toList <+: other.toList → other = name := by
      rw [map_toLower_asVariables]
      revert name
      cases settings.collector <;> simp only [Option.map_none, Option.map_some] <;> decide
    exact fun entry hentry => hnames _ (List.mem_map_of_mem hentry)

/-- The variables of the address and the port. -/
theorem anyCase?_asVariables (settings : Settings) :
    Environment.anyCase? ⟨settings.asVariables⟩ "app__host" = some settings.listener.address.text ∧
      Environment.anyCase? ⟨settings.asVariables⟩ "app__port" =
        some (toString settings.listener.port.toNat) := by
  have hhost : "APP__HOST".map Char.toLower = "app__host" := by decide +kernel
  have hport : "APP__PORT".map Char.toLower = "app__port" := by decide +kernel
  simp [Environment.anyCase?, asVariables, hhost, hport]

/-- The texts are found among the variables as they are. -/
theorem nonEmpty?_asVariables {settings : Settings} (h : HasTexts settings) :
    Environment.nonEmpty? ⟨settings.asVariables⟩ "SERVICE_NAME" = some settings.serviceName ∧
      Environment.nonEmpty? ⟨settings.asVariables⟩ "LOG_LEVEL" = some settings.logLevel ∧
      Environment.nonEmpty? ⟨settings.asVariables⟩ "OTLP_ENDPOINT" = settings.collector := by
  refine ⟨Environment.nonEmpty?_of_get? (by simp [Environment.get?, asVariables]) h.serviceName,
    Environment.nonEmpty?_of_get? (by simp [Environment.get?, asVariables]) h.logLevel, ?_⟩
  cases hcollector : settings.collector with
  | none => simp [Environment.nonEmpty?, Environment.get?, asVariables, hcollector]
  | some text =>
    refine Environment.nonEmpty?_of_get? ?_ fun hempty => ?_
    · simp [Environment.get?, asVariables, hcollector]
    · exact h.collector (hempty ▸ hcollector)

/-! ## Conversions -/

/-- The text of an address converts to the address. -/
theorem hostOf_text (address : Net.Address) : hostOf (ofVariable address.text) = .ok address := by
  simp only [hostOf, ofVariable, Net.Address.ofText?_text]

/-- The decimal text of a port converts to the port. -/
theorem portOf_toString (port : UInt16) : portOf (ofVariable (toString port.toNat)) = .ok port := by
  have hdecimal : IsDecimal (toString port.toNat).toList port.toNat := by
    have htext : (toString port.toNat).toList = Nat.toDigits 10 port.toNat := Nat.toList_repr
    rw [htext]
    exact ⟨⟨Nat.toDigits_ne_nil, fun c hc => Nat.isDigit_of_mem_toDigits (by decide) (by decide) hc⟩,
      Nat.ofDigitChars_toDigits (by decide) (by decide)⟩
  have hport := (portOf_of_writes (.digits hdecimal) (some .environment)).1
    (Nat.le_of_lt_succ port.toNat_lt)
  rwa [UInt16.ofNat_toNat] at hport

/-! ## Loading -/

section

variable {settings : Settings} {environment : Environment} {directory : Directory}

/-- An entry of the whole table is that of its variable if there is no settings file. -/
theorem entry?_layered_nil {environment : Environment} {name : String} (hname : Key.IsName name)
    (hpairs : pointed name.toList = name.toList) (honce : environment.HasOnce ("app__" ++ name)) :
    Value.entry? (layered [] environment) name =
      (environment.anyCase? ("app__" ++ name)).map ofVariable := by
  have hempty : Value.entry? (putAll [] (.table [])) name = none := rfl
  rw [layered, entry?_putAll_variables hname hpairs honce, hempty, Option.or_none]

/-- Where the variables say to listen. -/
theorem listenerOf_asVariables (settings : Settings) :
    listenerOf (layered [] ⟨settings.asVariables⟩) = .ok settings.listener := by
  obtain ⟨hhost, hport⟩ := anyCase?_asVariables settings
  have hentryHost : Value.entry? (layered [] ⟨settings.asVariables⟩) "host" =
      some (ofVariable settings.listener.address.text) := by
    rw [entry?_layered_nil (by decide) (by decide) (hasOnce_asVariables settings (by decide))]
    exact congrArg _ hhost
  have hentryPort : Value.entry? (layered [] ⟨settings.asVariables⟩) "port" =
      some (ofVariable (toString settings.listener.port.toNat)) := by
    rw [entry?_layered_nil (by decide) (by decide) (hasOnce_asVariables settings (by decide))]
    exact congrArg _ hport
  rw [listenerOf, hentryHost, hentryPort, convert, hostOf_text, convert, portOf_toString]
  rfl

/-- Without a settings file the variables give the settings back. -/
theorem ofLayers_asVariables (h : HasTexts settings) :
    ofLayers [] ⟨settings.asVariables⟩ = .ok settings := by
  obtain ⟨hservice, hlevel, hcollector⟩ := nonEmpty?_asVariables h
  rw [ofLayers, listenerOf_asVariables, hservice, hlevel, hcollector]
  rfl

/-- Settings are loaded back from their variables, in whatever order these stand. -/
theorem load_of_perm_asVariables (h : HasTexts settings)
    (hperm : environment.entries.Perm settings.asVariables) (henv : directory.envFile? = none)
    (hsettings : directory.settingsFile? = none) : load environment directory = .ok settings := by
  have hlayers : ofLayers [] environment = .ok settings := by
    have hsame : ofLayers [] ⟨settings.asVariables⟩ = ofLayers [] environment :=
      ofLayers_eq_of_perm hperm.symm (nodup_asVariables settings)
        (hasOnce_asVariables settings (by decide)) (hasOnce_asVariables settings (by decide)) []
    rw [← hsame, ofLayers_asVariables h]
  rw [load, henv, hsettings]
  exact hlayers

end

/-- Settings survive being written to variables.  Whatever they were loaded from, no text of theirs is
    empty, and where there is no file of variables and no settings file, the variables that say what
    they say are loaded as the same settings, in whatever order they stand.  Every address and every
    port is among them. -/
theorem load_asVariables_of_load {directory : Directory} (henv : directory.envFile? = none)
    (hsettings : directory.settingsFile? = none) :
    (∀ environment other settings, load environment other = .ok settings →
      HasTexts settings ∧
        ∀ written : Environment, written.entries.Perm settings.asVariables →
          load written directory = .ok settings) ∧
    ∀ listener : Net.HostPort,
      load ⟨asVariables { default with listener }⟩ directory = .ok { default with listener } := by
  constructor
  · intro environment other settings hload
    have htexts : HasTexts settings := texts_ne_empty_of_load hload
    exact ⟨htexts, fun written hperm => load_of_perm_asVariables htexts hperm henv hsettings⟩
  · intro listener
    have hservice : defaultServiceName ≠ "" := by decide
    have hlevel : defaultLogLevel ≠ "" := by decide
    have htexts : HasTexts { default with listener } := ⟨hservice, hlevel, nofun⟩
    exact load_of_perm_asVariables htexts (List.Perm.refl _) henv hsettings

/-- An address of four bytes that is embedded in one of eight groups, written with capital letters; a
    port that is a word; and two texts that are set to nothing, one of them in a file of variables. -/
theorem load_asVariables_of_embedded_address :
    let environment : Environment := ⟨[("APP__HOST", "::FFFF:1.2.3.4"), ("OTLP_ENDPOINT", "")]⟩
    let other : Directory := ⟨[(["srv", ".env"], "App__Port=on\nLOG_LEVEL=\n".toUTF8)], ["srv", "app"]⟩
    let bare : Directory := ⟨[(["srv", "notes"], "APP__HOST=::\n".toUTF8)], ["srv", "app"]⟩
    ∃ settings, load environment other = .ok settings ∧
      settings.asVariables = [("APP__HOST", "::ffff:1.2.3.4"), ("APP__PORT", "1"),
        ("SERVICE_NAME", "ollama-mock"), ("LOG_LEVEL", "info")] ∧
      HasTexts settings ∧
      load ⟨settings.asVariables.reverse⟩ bare = .ok settings ∧
      load ⟨asVariables { default with listener := settings.listener }⟩ bare =
        .ok { default with listener := settings.listener } := by
  intro environment other bare
  have hloaded : (load environment other).toOption =
      some ⟨⟨.v6 [0, 0, 0, 0, 0, 65535, 258, 772] rfl, 1⟩, "ollama-mock", "info", none⟩ := by
    decide +kernel
  have henv : bare.envFile? = none := by decide +kernel
  have hsettings : bare.settingsFile? = none := by decide +kernel
  obtain ⟨hback, hall⟩ := load_asVariables_of_load henv hsettings
  cases hload : load environment other with
  | error fault =>
    rw [hload] at hloaded
    cases hloaded
  | ok settings =>
    obtain ⟨htexts, hsame⟩ := hback environment other settings hload
    rw [hload] at hloaded
    have hfound := Option.some.inj hloaded
    refine ⟨settings, rfl, ?_, htexts, hsame _ (List.reverse_perm _), hall _⟩
    rw [hfound]
    decide +kernel

end CardServer.Settings
