import CardServer.Settings.Direct

/-! # The whole settings and where to listen

Where to listen can be read from a Json value alone or as a part of the whole settings.  The reader of
the whole puts by what is not its own and finds host and port among that; the reader of the part looks
at the value itself.  Both find the same, down to the complaint, so the whole settings are where to
listen and three texts of their own.  Only an object gives them, though the part also takes an array.

* `hostOfKept_ofJson`, `portOfKept_ofJson`   a value says the same before and after it is put by
* `listenerOfKept_putBy`                     where to listen by what was put by
* `ofMembers_eq_ok_iff`, `ofMembers_congr`   what the whole settings are made of, and what they ignore
* `ofJson_agrees_with_listenerOfJson`        the two readers side by side
-/

namespace CardServer.Settings

/-! ## What was put by -/

theorem hostOfKept_ofJson (value : Json) : hostOfKept (Kept.ofJson value) = hostOfJson value := by
  cases value with
  | str text => rfl
  | num number =>
    cases number with
    | int n => cases n <;> rfl
    | real x => rfl
  | null | bool | arr | obj => rfl

/-- An integer is a port in the same cases whether its sign was noticed before its size or after. -/
theorem portOfKept_ofJson (value : Json) : portOfKept (Kept.ofJson value) = portOfJson value := by
  cases value with
  | num number =>
    cases number with
    | int n =>
      cases n with
      | ofNat n =>
        have hbounds : (0 ≤ Int.ofNat n ∧ Int.ofNat n < 65536) ↔ n < 65536 := by
          simp only [Int.ofNat_eq_natCast]
          omega
        simp only [portOfJson, hbounds]
        rfl
      | negSucc n =>
        have hbounds : ¬ (0 ≤ Int.negSucc n ∧ Int.negSucc n < 65536) := by omega
        simp only [portOfJson, hbounds, if_false]
        rfl
    | real x => rfl
  | null | bool | str | arr | obj => rfl

/-- What was put by under a name that is not the settings' own is the last member of that name. -/
theorem last?_putBy {name : String} (h : name ∉ ownNames) (members : List (String × Json)) :
    Kept.last? name (putBy members) = (Json.lastMember? name members).map Kept.ofJson := by
  have hfold (found : Option Json) :
      (putBy members).foldl (fun found member => if member.1 = name then some member.2 else found)
          (found.map Kept.ofJson) =
        (members.foldl (fun found member => if member.1 = name then some member.2 else found)
          found).map Kept.ofJson := by
    induction members generalizing found with
    | nil => rfl
    | cons member rest ih =>
      obtain ⟨other, value⟩ := member
      by_cases hown : other ∈ ownNames
      · -- The settings' own members are left out, and none of them has the name.
        have hne : other ≠ name := fun hsame => h (hsame ▸ hown)
        rw [putBy, List.filterMap_cons_none (by simp [hown]), List.foldl_cons, if_neg hne]
        exact ih found
      · rw [putBy, List.filterMap_cons_some (b := (other, Kept.ofJson value)) (by simp [hown]),
          List.foldl_cons, List.foldl_cons]
        by_cases hname : other = name
        · rw [if_pos hname, if_pos hname]
          exact ih (some value)
        · rw [if_neg hname, if_neg hname]
          exact ih found
  exact hfold none

theorem keptMember_putBy {α : Type} {readKept : Kept → Except Complaint α}
    {read : Json → Except Complaint α} (hread : ∀ value, readKept (Kept.ofJson value) = read value)
    (absent : α) {name : String} (h : name ∉ ownNames) (members : List (String × Json)) :
    keptMember readKept absent name (putBy members) = member read absent name members := by
  rw [keptMember, member, last?_putBy h]
  cases Json.lastMember? name members with
  | none => rfl
  | some value => exact hread value

/-- Where to listen is the same whether the members were put by or not, and so is the complaint. -/
theorem listenerOfKept_putBy (members : List (String × Json)) :
    listenerOfKept (putBy members) = listenerOfMembers members := by
  rw [listenerOfKept, keptMember_putBy hostOfKept_ofJson defaultHost (by decide),
    keptMember_putBy portOfKept_ofJson defaultPort (by decide), listenerOfMembers]

/-! ## Texts -/

/-- A step that gives a result goes on with it. -/
private theorem bind_eq_ok_iff {ε α β : Type} {step : Except ε α} {next : α → Except ε β}
    {result : β} : (step >>= next) = .ok result ↔ ∃ value, step = .ok value ∧ next value = .ok result := by
  cases step with
  | error fault => simp [bind, Except.bind]
  | ok value => simp [bind, Except.bind]

/-- A value that may stand where a text may be left out: none, null or a text. -/
def IsOptionalText (value : Option Json) : Prop :=
  value = none ∨ value = some .null ∨ ∃ text, value = some (.str text)

theorem member_presentText_eq_some_iff {name text : String} {members : List (String × Json)} :
    member presentText none name members = .ok (some text) ↔
      Json.lastMember? name members = some (.str text) := by
  rw [member]
  cases Json.lastMember? name members with
  | none => simp
  | some value => cases value <;> simp [presentText, textOfJson, Except.map]

theorem member_optionalText_eq_ok_iff {name : String} {found : Option String}
    {members : List (String × Json)} :
    member optionalText none name members = .ok found ↔
      IsOptionalText (Json.lastMember? name members) ∧
        found = (Json.lastMember? name members).bind Json.text? := by
  rw [member, IsOptionalText]
  cases Json.lastMember? name members with
  | none => simp [eq_comm]
  | some value =>
    cases value <;>
      simp [optionalText, presentText, textOfJson, Except.map, Json.text?, eq_comm]

theorem requiredMember_eq_ok_iff {name text : String} {found : Option String} :
    requiredMember name found = .ok text ↔ found = some text := by
  cases found <;> simp [requiredMember]

/-! ## The whole settings -/

/-- The settings that the members of an object give: where to listen as by the members alone, and three
    texts that are members of their own. -/
theorem ofMembers_eq_ok_iff {members : List (String × Json)} {settings : Settings} :
    ofMembers members = .ok settings ↔
      listenerOfMembers members = .ok settings.listener ∧
        Json.lastMember? "service_name" members = some (.str settings.serviceName) ∧
        Json.lastMember? "log_level" members = some (.str settings.logLevel) ∧
        IsOptionalText (Json.lastMember? "otlp_endpoint" members) ∧
        settings.collector = (Json.lastMember? "otlp_endpoint" members).bind Json.text? := by
  obtain ⟨listener, serviceName, logLevel, collector⟩ := settings
  simp only [ofMembers, bind_eq_ok_iff, requiredMember_eq_ok_iff, member_optionalText_eq_ok_iff,
    listenerOfKept_putBy]
  constructor
  · rintro ⟨_, hlevel, _, ⟨hoptional, rfl⟩, _, hservice, _, rfl, _, rfl, _, hlistener, hsame⟩
    obtain ⟨rfl, rfl, rfl, rfl⟩ := (Settings.mk.injEq ..).mp (Except.ok.inj hsame)
    exact ⟨hlistener, member_presentText_eq_some_iff.1 hservice,
      member_presentText_eq_some_iff.1 hlevel, hoptional, rfl⟩
  · rintro ⟨hlistener, hservice, hlevel, hoptional, rfl⟩
    exact ⟨_, member_presentText_eq_some_iff.2 hlevel, _, ⟨hoptional, rfl⟩, _,
      member_presentText_eq_some_iff.2 hservice, _, rfl, _, rfl, _, hlistener, rfl⟩

/-- The names of the members that count. -/
def countingNames : List String := ["host", "port"] ++ ownNames

/-- Members of other names are without influence, on the complaint as well. -/
theorem ofMembers_congr {members others : List (String × Json)}
    (h : ∀ name ∈ countingNames, Json.lastMember? name others = Json.lastMember? name members) :
    ofMembers others = ofMembers members := by
  have hmember {α : Type} (read : Json → Except Complaint α) (absent : α) {name : String}
      (hname : name ∈ countingNames) :
      member read absent name others = member read absent name members := by
    rw [member, member, h name hname]
  rw [ofMembers, ofMembers, listenerOfKept_putBy, listenerOfKept_putBy, listenerOfMembers,
    listenerOfMembers, hmember presentText none (by decide), hmember optionalText none (by decide),
    hmember presentText none (by decide), hmember hostOfJson defaultHost (by decide),
    hmember portOfJson defaultPort (by decide)]

/-! ## Arrays -/

/-- An item gives what it converts to, or a default if it is not there. -/
def ItemGives {α : Type} (read : Json → Except Complaint α) (absent : α) (item : Option Json)
    (result : α) : Prop :=
  (item = none ∧ result = absent) ∨ ∃ value, item = some value ∧ read value = .ok result

theorem itemGives_iff {α : Type} {read : Json → Except Complaint α} {absent result : α}
    {item : Option Json} :
    (item.map read).getD (.ok absent) = .ok result ↔ ItemGives read absent item result := by
  cases item <;> simp [ItemGives, eq_comm]

/-- An array of at most two items says where to listen, the host first. -/
theorem listenerOfItems_eq_ok_iff {items : List Json} {listener : Net.HostPort} :
    listenerOfItems items = .ok listener ↔
      items.length ≤ 2 ∧ ItemGives hostOfJson defaultHost items[0]? listener.address ∧
        ItemGives portOfJson defaultPort items[1]? listener.port := by
  obtain ⟨address, port⟩ := listener
  simp only [listenerOfItems, bind_eq_ok_iff, itemGives_iff]
  constructor
  · rintro ⟨host, hhost, number, hnumber, hlength⟩
    split at hlength
    · nomatch hlength
    · next hshort =>
      obtain ⟨rfl, rfl⟩ := (Net.HostPort.mk.injEq ..).mp (Except.ok.inj hlength)
      exact ⟨Nat.le_of_not_lt hshort, hhost, hnumber⟩
  · rintro ⟨hlength, hhost, hport⟩
    refine ⟨address, hhost, port, hport, ?_⟩
    rw [if_neg (Nat.not_lt.2 hlength)]
    rfl

/-! ## Both readers -/

/-- A Json value gives whole settings exactly if it is an object that says where to listen, has a text as
    name of the service and one as log level, and a text, null or nothing as collector.  Where to listen
    is then what the value says by itself, so it has the same host, port and text, and the three texts are
    those of the value.  No other member has a say, also where nothing is given.  An array of at most two
    items says where to listen, with the defaults for what is not there, but never gives whole
    settings. -/
theorem ofJson_agrees_with_listenerOfJson (value : Json) :
    (∀ settings, ofJson value = .ok settings ↔ ∃ members, value = .obj members ∧
      listenerOfJson value = .ok settings.listener ∧
      Json.lastMember? "service_name" members = some (.str settings.serviceName) ∧
      Json.lastMember? "log_level" members = some (.str settings.logLevel) ∧
      IsOptionalText (Json.lastMember? "otlp_endpoint" members) ∧
      settings.collector = (Json.lastMember? "otlp_endpoint" members).bind Json.text?) ∧
    ((∃ settings, ofJson value = .ok settings) ↔ ∃ members, value = .obj members ∧
      (∃ listener, listenerOfJson value = .ok listener) ∧
      (∃ text, Json.lastMember? "service_name" members = some (.str text)) ∧
      (∃ text, Json.lastMember? "log_level" members = some (.str text)) ∧
      IsOptionalText (Json.lastMember? "otlp_endpoint" members)) ∧
    (∀ members others, value = .obj members →
      (∀ name ∈ ["host", "port", "service_name", "log_level", "otlp_endpoint"],
        Json.lastMember? name others = Json.lastMember? name members) →
      ofJson (.obj others) = ofJson value) ∧
    ∀ items, value = .arr items →
      ofJson value = .error (.wrongType "sequence" "struct MockConfig") ∧
      ∀ listener, listenerOfJson value = .ok listener ↔
        items.length ≤ 2 ∧ ItemGives hostOfJson (.v4 0 0 0 0) items[0]? listener.address ∧
          ItemGives portOfJson 11434 items[1]? listener.port := by
  have hok (settings : Settings) : ofJson value = .ok settings ↔ ∃ members, value = .obj members ∧
      listenerOfJson value = .ok settings.listener ∧
      Json.lastMember? "service_name" members = some (.str settings.serviceName) ∧
      Json.lastMember? "log_level" members = some (.str settings.logLevel) ∧
      IsOptionalText (Json.lastMember? "otlp_endpoint" members) ∧
      settings.collector = (Json.lastMember? "otlp_endpoint" members).bind Json.text? := by
    cases value with
    | obj members => simpa [ofJson, listenerOfJson] using ofMembers_eq_ok_iff
    | null | bool | num | str | arr => simp [ofJson]
  refine ⟨hok, ⟨?_, ?_⟩, ?_, ?_⟩
  · rintro ⟨settings, hsettings⟩
    obtain ⟨members, hvalue, hlistener, hservice, hlevel, hoptional, -⟩ := (hok settings).1 hsettings
    exact ⟨members, hvalue, ⟨_, hlistener⟩, ⟨_, hservice⟩, ⟨_, hlevel⟩, hoptional⟩
  · rintro ⟨members, hvalue, ⟨listener, hlistener⟩, ⟨service, hservice⟩, ⟨level, hlevel⟩, hoptional⟩
    exact ⟨⟨listener, service, level, _⟩, (hok _).2
      ⟨members, hvalue, hlistener, hservice, hlevel, hoptional, rfl⟩⟩
  · rintro members others rfl hsame
    refine ofMembers_congr fun name hname => hsame name ?_
    revert name
    decide
  · rintro items rfl
    exact ⟨rfl, fun listener => listenerOfItems_eq_ok_iff⟩

end CardServer.Settings
