import CardServer.Proofs.Settings.Layers
import Mathlib.Data.List.Nodup

/-! # A file of variables and the environment

To load settings with a file of variables is to load them with its variables in the environment.  What
a file adds are its assignments up to the first malformed line, of each name the first one, without
the names that are set already, be it to nothing.  An environment has each name once and no order, so
the variables may stand in any order; then no two names may be the same ignoring case, since the later
one would count.

* `assignments`, `additions`      what a file assigns, and what it adds to an environment
* `entries_extended_some`         the environment with the variables of a file
* `ofLayers_eq_of_perm`           the order of the variables is without influence
* `texts_of_load`                 the settings that are plain texts
* `load_eq_load_of_additions`     loading with and without the file
-/

namespace CardServer.Settings

namespace EnvFile

/-! ## What a file adds -/

/-- The assignments of some lines, up to the first malformed one.  A value may refer to variables of the
    environment and to those assigned before it. -/
def assignments (environment assigned : Environment) :
    List (Option (List Char)) → List (String × String)
  | [] => []
  | none :: _ => []
  | some line :: rest =>
    match readLine (look environment assigned) line with
    | .malformed => []
    | .empty => assignments environment assigned rest
    | .assignment name value =>
      (name, value) ::
        assignments (environment.define name value) ⟨(name, value) :: assigned.entries⟩ rest

/-- The first entry of each name. -/
def firsts : List (String × String) → List (String × String)
  | [] => []
  | entry :: rest => entry :: (firsts rest).filter (·.1 ≠ entry.1)

/-- The first entry of each name that is not set in an environment. -/
def news (environment : Environment) (entries : List (String × String)) :
    List (String × String) :=
  (firsts entries).filter fun entry => (environment.get? entry.1).isNone

/-- What a file adds to an environment. -/
def additions (environment : Environment) (bytes : ByteArray) : List (String × String) :=
  news environment (assignments environment ⟨[]⟩ (lines bytes))

theorem nodup_firsts (entries : List (String × String)) :
    ((firsts entries).map (·.1)).Nodup := by
  induction entries with
  | nil => exact List.nodup_nil
  | cons entry rest ih =>
    rw [firsts, List.map_cons, List.nodup_cons]
    refine ⟨?_, ih.sublist (List.filter_sublist.map _)⟩
    simp

theorem nodup_additions (environment : Environment) (bytes : ByteArray) :
    ((additions environment bytes).map (·.1)).Nodup :=
  (nodup_firsts _).sublist (List.filter_sublist.map _)

/-- What is added is not set already. -/
theorem get?_eq_none_of_mem_additions {environment : Environment} {bytes : ByteArray}
    {entry : String × String} (h : entry ∈ additions environment bytes) :
    environment.get? entry.1 = none := by
  simpa using (List.mem_filter.1 h).2

/-- A name that is set already brings nothing new. -/
theorem news_cons_of_some {environment : Environment} {name value held : String}
    (h : environment.get? name = some held) (entries : List (String × String)) :
    news environment ((name, value) :: entries) = news environment entries := by
  -- An entry that is kept because its name is not set has another name anyway.
  have hsame : ∀ entry : String × String,
      (decide (entry.1 ≠ name) && (environment.get? entry.1).isNone) =
        (environment.get? entry.1).isNone := by
    intro entry
    by_cases hname : entry.1 = name
    · simp [hname, h]
    · simp [hname]
  simp only [news, firsts, List.filter_cons, h, Option.isNone_some, Bool.false_eq_true, if_false,
    List.filter_filter]
  exact List.filter_congr fun entry _ => by rw [Bool.and_comm]; exact hsame entry

/-- A new name is added, and from then on it is set. -/
theorem news_cons_of_none {environment : Environment} {name : String}
    (h : environment.get? name = none) (value : String) (entries : List (String × String)) :
    news environment ((name, value) :: entries) =
      (name, value) :: news (environment.define name value) entries := by
  simp only [news, firsts, List.filter_cons, h, Option.isNone_none, if_true, List.filter_filter]
  refine congrArg _ (List.filter_congr fun entry _ => ?_)
  rw [Environment.get?_define]
  by_cases hname : name = entry.1
  · simp [← hname]
  · simp [hname, Ne.symm hname]

/-- The lines of a file add what is new in their assignments. -/
theorem entries_apply_eq (environment assigned : Environment) (lines : List (Option (List Char))) :
    (apply environment assigned lines).entries =
      environment.entries ++ news environment (assignments environment assigned lines) := by
  -- What is new is judged by the environment that a line finds, which the lines before have extended.
  fun_induction apply environment assigned lines with
  | case1 | case2 => simp [assignments, news, firsts]
  | case3 _ _ _ _ hline => simp [assignments, hline, news, firsts]
  | case4 _ _ _ _ hline ih => rw [ih, assignments, hline]
  | case5 environment assigned line rest name value hline ih =>
    rw [ih, assignments, hline]
    cases hget : environment.get? name with
    | some held =>
      have hdefine : environment.define name value = environment := by
        rw [Environment.define, hget]
      rw [news_cons_of_some hget, hdefine]
    | none =>
      have hdefine : (environment.define name value).entries =
          environment.entries ++ [(name, value)] := by
        rw [Environment.define, hget]
      rw [hdefine, news_cons_of_none hget, List.append_assoc, List.singleton_append]

end EnvFile

/-- The environment with the variables of a file. -/
theorem entries_extended_some (environment : Environment) (bytes : ByteArray) :
    (extended environment (some bytes)).entries =
      environment.entries ++ EnvFile.additions environment bytes :=
  EnvFile.entries_apply_eq environment ⟨[]⟩ (EnvFile.lines bytes)

/-- A variable has the value that it was set to, and otherwise the first one that a file assigns. -/
theorem get?_extended_some (environment : Environment) (bytes : ByteArray) (name : String) :
    (extended environment (some bytes)).get? name =
      (environment.get? name).or (Environment.get? ⟨EnvFile.additions environment bytes⟩ name) := by
  simp only [Environment.get?, entries_extended_some, List.find?_append, Option.map_or]

/-! ## The order of the variables -/

/-- What is found in a list does not depend on its order if at most one item can be found. -/
theorem find?_eq_of_perm {α : Type} {p : α → Bool} {items shuffled : List α}
    (h : items.Perm shuffled) (honce : (items.filter p).length ≤ 1) :
    items.find? p = shuffled.find? p := by
  -- Lists of at most one item are the same if one is the other in another order.
  have hperm : (items.filter p).Perm (shuffled.filter p) := h.filter p
  have hsame : items.filter p = shuffled.filter p := by
    match hfound : items.filter p, honce with
    | [], _ =>
      rw [hfound] at hperm
      exact hperm.nil_eq
    | [item], _ =>
      rw [hfound] at hperm
      exact hperm.singleton_eq
  rw [← List.head?_filter, ← List.head?_filter, hsame]

namespace Environment

variable {environment shuffled : Environment}

theorem get?_eq_of_perm (h : environment.entries.Perm shuffled.entries)
    (hnames : (environment.entries.map (·.1)).Nodup) (name : String) :
    environment.get? name = shuffled.get? name := by
  rw [get?, find?_eq_of_perm h (length_filter_le_one hnames name), get?]

theorem anyCase?_eq_of_perm (h : environment.entries.Perm shuffled.entries) {name : String}
    (honce : environment.HasOnce name) :
    environment.anyCase? name = shuffled.anyCase? name := by
  rw [anyCase?, find?_eq_of_perm h honce.atMostOne, anyCase?]

theorem HasOnce.of_perm (h : environment.entries.Perm shuffled.entries) {name : String}
    (honce : environment.HasOnce name) : shuffled.HasOnce name where
  atMostOne := by
    rw [← (h.filter _).length_eq]
    exact honce.atMostOne
  noLonger entry hentry := honce.noLonger entry (h.mem_iff.2 hentry)

/-- A name is there at most once if no two different names are the same ignoring case. -/
theorem hasOnce_of_names {name : String} (hnames : (environment.entries.map (·.1)).Nodup)
    (hcase : ∀ entry ∈ environment.entries, ∀ other ∈ environment.entries,
      entry.1.map Char.toLower = other.1.map Char.toLower → entry.1 = other.1)
    (hlonger : ∀ entry ∈ environment.entries,
      name.toList <+: (entry.1.map Char.toLower).toList → entry.1.map Char.toLower = name) :
    environment.HasOnce name where
  atMostOne := by
    have hlower : (environment.entries.map fun entry => entry.1.map Char.toLower).Nodup :=
      hnames.of_map.map_on fun entry hentry other hother hsame =>
        List.inj_on_of_nodup_map hnames hentry hother (hcase entry hentry other hother hsame)
    exact length_filter_le_one hlower name
  noLonger := hlonger

end Environment

/-- The settings do not depend on the order of the variables. -/
theorem ofLayers_eq_of_perm {environment shuffled : Environment}
    (h : environment.entries.Perm shuffled.entries)
    (hnames : (environment.entries.map (·.1)).Nodup) (hhost : environment.HasOnce "app__host")
    (hport : environment.HasOnce "app__port") (file : List (String × Value)) :
    ofLayers file environment = ofLayers file shuffled := by
  have hentry : ∀ name, Key.IsName name → pointed name.toList = name.toList →
      environment.HasOnce ("app__" ++ name) →
      Value.entry? (layered file environment) name = Value.entry? (layered file shuffled) name := by
    intro name hname hpairs honce
    rw [layered, layered, entry?_putAll_variables hname hpairs honce,
      entry?_putAll_variables hname hpairs (honce.of_perm h), Environment.anyCase?_eq_of_perm h honce]
  have hlistener : listenerOf (layered file environment) = listenerOf (layered file shuffled) := by
    rw [listenerOf, hentry "host" (by decide) (by decide) hhost,
      hentry "port" (by decide) (by decide) hport, listenerOf]
  have htext : ∀ name, environment.nonEmpty? name = shuffled.nonEmpty? name := by
    intro name
    rw [Environment.nonEmpty?, Environment.get?_eq_of_perm h hnames, Environment.nonEmpty?]
  simp only [ofLayers, hlistener, htext]

/-! ## Loading -/

/-- The settings that are plain texts come from the variables of their own alone. -/
theorem texts_of_ofLayers {file : List (String × Value)} {environment : Environment}
    {settings : Settings} (h : ofLayers file environment = .ok settings) :
    settings.serviceName = (environment.nonEmpty? "SERVICE_NAME").getD "ollama-mock" ∧
      settings.logLevel = (environment.nonEmpty? "LOG_LEVEL").getD "info" ∧
      settings.collector = environment.nonEmpty? "OTLP_ENDPOINT" := by
  cases hlistener : listenerOf (layered file environment) with
  | error fault => simp [ofLayers, hlistener, bind, Except.bind] at h
  | ok listener =>
    simp only [ofLayers, hlistener, bind, Except.bind, pure, Except.pure, Except.ok.injEq] at h
    subst h
    exact ⟨rfl, rfl, rfl⟩

theorem texts_of_load {environment : Environment} {directory : Directory} {settings : Settings}
    (h : load environment directory = .ok settings) :
    let whole := extended environment directory.envFile?
    settings.serviceName = (whole.nonEmpty? "SERVICE_NAME").getD "ollama-mock" ∧
      settings.logLevel = (whole.nonEmpty? "LOG_LEVEL").getD "info" ∧
      settings.collector = whole.nonEmpty? "OTLP_ENDPOINT" := by
  cases hfile : fileEntries directory.settingsFile? with
  | error fault => simp [load, hfile, bind, Except.bind] at h
  | ok file =>
    rw [load, hfile] at h
    exact texts_of_ofLayers h

/-- Settings loaded with the same values of three variables have the same plain texts. -/
theorem texts_of_load_congr {environment other : Environment} {directory otherDirectory : Directory}
    {settings otherSettings : Settings}
    (h : ∀ name ∈ ["SERVICE_NAME", "LOG_LEVEL", "OTLP_ENDPOINT"],
      (extended other otherDirectory.envFile?).get? name =
        (extended environment directory.envFile?).get? name)
    (hload : load environment directory = .ok settings)
    (hother : load other otherDirectory = .ok otherSettings) :
    settings.serviceName = otherSettings.serviceName ∧
      settings.logLevel = otherSettings.logLevel ∧
      settings.collector = otherSettings.collector := by
  obtain ⟨hservice, hlevel, hcollector⟩ := texts_of_load hload
  obtain ⟨hotherService, hotherLevel, hotherCollector⟩ := texts_of_load hother
  have hvalue : ∀ name ∈ ["SERVICE_NAME", "LOG_LEVEL", "OTLP_ENDPOINT"],
      (extended other otherDirectory.envFile?).nonEmpty? name =
        (extended environment directory.envFile?).nonEmpty? name := by
    intro name hname
    rw [Environment.nonEmpty?, h name hname, Environment.nonEmpty?]
  refine ⟨?_, ?_, ?_⟩
  · rw [hservice, hotherService, hvalue _ (by simp)]
  · rw [hlevel, hotherLevel, hvalue _ (by simp)]
  · rw [hcollector, hotherCollector, hvalue _ (by simp)]

/-- The names of the variables of a process and of a file are different. -/
theorem nodup_entries_extended {environment : Environment}
    (h : (environment.entries.map (·.1)).Nodup) (bytes : ByteArray) :
    ((extended environment (some bytes)).entries.map (·.1)).Nodup := by
  rw [entries_extended_some, List.map_append]
  refine h.append (EnvFile.nodup_additions environment bytes) ?_
  intro name hset hadded
  obtain ⟨entry, hentry, rfl⟩ := List.mem_map.1 hadded
  have hnone := EnvFile.get?_eq_none_of_mem_additions hentry
  obtain ⟨held, hheld, hname⟩ := List.mem_map.1 hset
  rw [Environment.get?, Option.map_eq_none_iff, List.find?_eq_none] at hnone
  exact hnone held hheld (by simp [hname])

/-- Loading with a file of variables is loading with its variables in the environment, in whatever order
    they stand.  No two different names may be the same ignoring case, and ignoring case no name may
    go on behind that of the variable for host or port.  The settings that are plain texts are the
    values of their variables, those that are set first, then those of the file, unless they are
    empty; whoever loads with the same values of these variables gets the same texts, whatever the
    settings file and all other variables say. -/
theorem load_eq_load_of_additions {environment combined : Environment} {directory bare : Directory}
    {bytes : ByteArray} (hfile : directory.envFile? = some bytes) (hbare : bare.envFile? = none)
    (hsettings : bare.settingsFile? = directory.settingsFile?)
    (hnames : (environment.entries.map (·.1)).Nodup)
    (hcombined :
      combined.entries.Perm (environment.entries ++ EnvFile.additions environment bytes))
    (hcase : ∀ entry ∈ combined.entries, ∀ other ∈ combined.entries,
      entry.1.map Char.toLower = other.1.map Char.toLower → entry.1 = other.1)
    (hlonger : ∀ entry ∈ combined.entries, ∀ name ∈ ["app__host", "app__port"],
      name.toList <+: (entry.1.map Char.toLower).toList → entry.1.map Char.toLower = name) :
    load environment directory = load combined bare ∧
    (∀ settings, load environment directory = .ok settings →
      let value? name := ((environment.get? name).or
        (Environment.get? ⟨EnvFile.additions environment bytes⟩ name)).filter (!·.isEmpty)
      settings.serviceName = (value? "SERVICE_NAME").getD "ollama-mock" ∧
        settings.logLevel = (value? "LOG_LEVEL").getD "info" ∧
        settings.collector = value? "OTLP_ENDPOINT") ∧
    (∀ other otherDirectory settings otherSettings,
      (∀ name ∈ ["SERVICE_NAME", "LOG_LEVEL", "OTLP_ENDPOINT"],
        (extended other otherDirectory.envFile?).get? name = combined.get? name) →
      load environment directory = .ok settings → load other otherDirectory = .ok otherSettings →
      settings.serviceName = otherSettings.serviceName ∧
        settings.logLevel = otherSettings.logLevel ∧
        settings.collector = otherSettings.collector) := by
  -- Both sides work on the same variables, in different orders.
  have hextended : combined.entries.Perm (extended environment directory.envFile?).entries := by
    rw [hfile, entries_extended_some]
    exact hcombined
  have hcombinedNames : (combined.entries.map (·.1)).Nodup := by
    rw [(hextended.map _).nodup_iff, hfile]
    exact nodup_entries_extended hnames bytes
  have hvalues := Environment.get?_eq_of_perm hextended hcombinedNames
  have honce : ∀ name ∈ ["app__host", "app__port"], combined.HasOnce name := fun name hname =>
    Environment.hasOnce_of_names hcombinedNames hcase fun entry hentry =>
      hlonger entry hentry name hname
  refine ⟨?_, fun settings hload => ?_, fun other otherDirectory settings otherSettings hsame => ?_⟩
  · rw [load, load, hbare, hsettings]
    cases fileEntries directory.settingsFile? with
    | error fault => rfl
    | ok file =>
      exact (ofLayers_eq_of_perm hextended hcombinedNames (honce _ (by simp)) (honce _ (by simp))
        file).symm
  · have htexts := texts_of_load hload
    simp only [Environment.nonEmpty?, hfile, get?_extended_some] at htexts
    exact htexts
  · exact texts_of_load_congr fun name hname => (hsame name hname).trans (hvalues name)

/-- A file in the directory above: a name that is set to nothing, one that it assigns twice, a value
    that refers to a variable, and a line that is malformed in front of the last one. -/
theorem load_of_file_above :
    let environment : Environment := ⟨[("SERVICE_NAME", ""), ("PATH", "/bin")]⟩
    let text := "SERVICE_NAME=cards\nexport App__Port=8080 # here\nApp__Port=1\nLOG_LEVEL=$PATH\n" ++
      "no assignment\nOTLP_ENDPOINT=here\n"
    let directory : Directory := ⟨[(["srv", ".env"], text.toUTF8)], ["srv", "app"]⟩
    let combined : Environment :=
      ⟨[("LOG_LEVEL", "/bin"), ("App__Port", "8080"), ("PATH", "/bin"), ("SERVICE_NAME", "")]⟩
    let bare : Directory := ⟨[], ["srv", "app"]⟩
    EnvFile.additions environment text.toUTF8 = [("App__Port", "8080"), ("LOG_LEVEL", "/bin")] ∧
      load environment directory = load combined bare ∧
      (load combined bare).toOption =
        some ⟨⟨.unspecified, 8080⟩, "ollama-mock", "/bin", none⟩ := by
  intro environment text directory combined bare
  have hadditions : EnvFile.additions environment text.toUTF8 =
      [("App__Port", "8080"), ("LOG_LEVEL", "/bin")] := by decide +kernel
  have hfile : directory.envFile? = some text.toUTF8 := by decide +kernel
  have hbare : bare.envFile? = none := by decide +kernel
  have hsettings : bare.settingsFile? = directory.settingsFile? := by decide +kernel
  have hnames : (environment.entries.map (·.1)).Nodup := by decide +kernel
  have hcombined : combined.entries.Perm
      (environment.entries ++ EnvFile.additions environment text.toUTF8) := by
    rw [hadditions]
    decide +kernel
  have hcase : ∀ entry ∈ combined.entries, ∀ other ∈ combined.entries,
      entry.1.map Char.toLower = other.1.map Char.toLower → entry.1 = other.1 := by decide +kernel
  have hlonger : ∀ entry ∈ combined.entries, ∀ name ∈ ["app__host", "app__port"],
      name.toList <+: (entry.1.map Char.toLower).toList → entry.1.map Char.toLower = name := by
    decide +kernel
  obtain ⟨hsame, -, -⟩ :=
    load_eq_load_of_additions hfile hbare hsettings hnames hcombined hcase hlonger
  exact ⟨hadditions, hsame, by decide +kernel⟩

end CardServer.Settings
