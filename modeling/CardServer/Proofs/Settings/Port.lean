import CardServer.Proofs.Settings.Formats
import CardServer.Proofs.Settings.Layers
import CardServer.Settings.Direct

/-! # A port is used as it is written or refused

A port comes as digits or as an integer, and some readers round an integer that 64 bits with a sign do
not hold.  Whatever of these it is, it converts to the port that was written, or to none if that is
beyond 65535.  So a settings file in Json and the same object as settings agree on where to listen, as
long as its port is an integer that neither of the two ways of reading takes for a rounded number.

* `portOf_of_writes`         what is written for a port converts to it or not at all
* `entryOf?_members`         the entries of a Json file are the last members of their names
* `toOption_map_listener`    a Json file and its object agree on where to listen
* `port_used_or_refused`     both for all sources of a port
-/

namespace CardServer.Settings

/-! ## Conversions -/

/-- Digits are no word for one or zero. -/
theorem wordNumber?_of_digits {text : String} (h : Json.Grammar.Digits text.toList) :
    wordNumber? text = none := by
  have hne : ∀ word : String, word.toList.all Char.isDigit = false → ¬ text = word :=
    fun word hword => Format.ne_of_digits h hword
  simp only [wordNumber?, Format.map_toLower_of_digits h]
  simp [hne]

/-- Digits convert to their number if 64 bits hold it. -/
theorem number?_of_isDecimal {text : String} {n : Nat} (h : IsDecimal text.toList n) :
    number? text = if n ≤ greatestNumber then some n else none := by
  obtain ⟨⟨hne, hall⟩, hvalue⟩ := h
  have hplus : Text.withoutPlus text.toList = text.toList := by
    unfold Text.withoutPlus
    split
    · next rest htext =>
      rw [htext] at hall
      exact absurd (hall '+' (List.mem_cons_self ..)) (by decide)
    · rfl
  have hdecimal : Text.decimal? text.toList = some n := by
    simp [Text.decimal?, hplus, hne, hvalue, List.all_eq_true.2 hall]
  rw [number?, hdecimal, Option.filter_some]
  simp

/-- What converts to a number converts to the port of that number, if there is one. -/
theorem portOf_of_numberOf {value : Value} {n : Nat} (h : numberOf "port" value = .ok n) :
    (n ≤ 65535 → portOf value = .ok (UInt16.ofNat n)) ∧
      (65535 < n → ∃ fault, portOf value = .error fault) := by
  constructor
  · intro hn
    simp only [portOf, h]
    rw [if_pos (by omega)]
  · intro hn
    simp only [portOf, h]
    rw [if_neg (by omega)]
    exact ⟨_, rfl⟩

/-- A rounded number that is great is no port. -/
theorem exists_portOf_eq_error {origin : Option Origin} {x : Real64}
    (h : 65536 ≤ x.toNat greatestNumber) :
    ∃ fault, portOf (.scalar origin (.real x)) = .error fault := by
  have hnumber : numberOf "port" (.scalar origin (.real x)) = .ok (x.toNat greatestNumber) := rfl
  exact (portOf_of_numberOf hnumber).2 (by omega)

/-- What is written for a port converts to it, or not at all if it is beyond the greatest one. -/
theorem portOf_of_writes {n : Nat} {scalar : Scalar} (h : Writes n scalar) (origin : Option Origin) :
    (n ≤ 65535 → portOf (.scalar origin scalar) = .ok (UInt16.ofNat n)) ∧
      (65535 < n → ∃ fault, portOf (.scalar origin scalar) = .error fault) := by
  cases h with
  | @digits text h =>
    have hfound : (wordNumber? text).or (number? text) =
        if n ≤ greatestNumber then some n else none := by
      rw [wordNumber?_of_digits h.1, Option.none_or, number?_of_isDecimal h]
    rcases Nat.lt_or_ge greatestNumber n with hgreat | hsmall
    · rw [if_neg (Nat.not_le.2 hgreat)] at hfound
      refine ⟨fun hn => ?_, fun _ => ⟨_, by simp only [portOf, numberOf, hfound]; rfl⟩⟩
      simp only [greatestNumber] at hgreat
      omega
    · rw [if_pos hsmall] at hfound
      exact portOf_of_numberOf (by simp only [numberOf, hfound])
  | integer =>
    have hnumber : numberOf "port" (.scalar origin (.int n)) = .ok n := by
      simp only [numberOf]
      rw [if_neg (by omega), Int.toNat_natCast]
    exact portOf_of_numberOf hnumber
  | rounded h =>
    -- Rounding loses less than half, and half of such a number is no port either.
    have hgreat : 65536 ≤ (Real64.ofDecimal false n 0).toNat greatestNumber :=
      Real64.le_toNat_ofDecimal (by decide) (by omega) (by decide)
    exact ⟨fun hn => by omega, fun _ => exists_portOf_eq_error hgreat⟩
  | @numeral digits x h hx =>
    rcases Json.Numeral.value?_of_natural h.1 hx with hint | ⟨hn, y, hy, hsign, hatLeast⟩
    · cases hint
    · obtain rfl : x = y := by simpa using hy
      have hgreat : 65536 ≤ (Real64.finite x).toNat greatestNumber :=
        Real64.le_toNat_of_isAtLeast hsign hatLeast (by decide)
      rw [h.2] at hn
      simp only [Json.Numeral.greatestSignificand] at hn
      exact ⟨fun _ => by omega, fun _ => exists_portOf_eq_error hgreat⟩

/-! ## Loading -/

section

variable {environment : Environment} {directory : Directory} {file : List (String × Value)}

/-- A port that converts is the one that is loaded, and one that does not lets loading fail. -/
theorem load_of_portOf (hfile : fileEntries directory.settingsFile? = .ok file)
    (hhost : IsSole (extended environment directory.envFile?) file "host")
    (hport : IsSole (extended environment directory.envFile?) file "port")
    {address : Net.Address} {value : Value}
    (haddress : convert hostOf defaultHost (rawValue? environment directory file "host") = .ok address)
    (hvalue : rawValue? environment directory file "port" = some value) :
    (∀ port, portOf value = .ok port →
      ∃ settings, load environment directory = .ok settings ∧ settings.listener = ⟨address, port⟩) ∧
    (∀ fault, portOf value = .error fault → load environment directory = .error fault) := by
  have hmap := map_listener_load_of_isSole hfile hhost hport
  rw [haddress, hvalue] at hmap
  constructor
  · intro port hok
    simp only [convert, hok, bind, Except.bind, pure, Except.pure] at hmap
    cases hload : load environment directory with
    | error fault =>
      rw [hload] at hmap
      cases hmap
    | ok settings =>
      rw [hload] at hmap
      exact ⟨settings, rfl, Except.ok.inj hmap⟩
  · intro fault herror
    simp only [convert, herror, bind, Except.bind] at hmap
    cases hload : load environment directory with
    | error other =>
      rw [hload] at hmap
      have hsame : other = fault := Except.error.inj hmap
      rw [hsame]
    | ok settings =>
      rw [hload] at hmap
      cases hmap

/-- What is written for a port is loaded as it is, or not at all if it is beyond the greatest one. -/
theorem load_of_writes (hfile : fileEntries directory.settingsFile? = .ok file)
    (hhost : IsSole (extended environment directory.envFile?) file "host")
    (hport : IsSole (extended environment directory.envFile?) file "port")
    (haddress : ∃ address,
      convert hostOf defaultHost (rawValue? environment directory file "host") = .ok address)
    {origin : Option Origin} {scalar : Scalar} {n : Nat}
    (hvalue : rawValue? environment directory file "port" = some (.scalar origin scalar))
    (hwrites : Writes n scalar) :
    (n ≤ 65535 → ∃ settings, load environment directory = .ok settings ∧
      settings.listener.port.toNat = n) ∧
    (65535 < n → ∃ fault, load environment directory = .error fault ∧
      fault.fault = .config (.root fault.message)) := by
  obtain ⟨address, haddress⟩ := haddress
  obtain ⟨hsmall, hgreat⟩ := portOf_of_writes hwrites origin
  obtain ⟨hok, herror⟩ := load_of_portOf hfile hhost hport haddress hvalue
  constructor
  · intro hn
    obtain ⟨settings, hload, hlistener⟩ := hok _ (hsmall hn)
    refine ⟨settings, hload, ?_⟩
    rw [hlistener]
    exact UInt16.toNat_ofNat_of_lt' (Nat.lt_of_le_of_lt hn (by decide))
  · intro hn
    obtain ⟨fault, hfault⟩ := hgreat hn
    exact ⟨fault, herror fault hfault, rfl⟩

end

/-! ## Members of a Json file -/

/-- A change keeps the names in their order, or adds its own behind them. -/
theorem map_fst_upsert (name : String) (change : Option Value → Value)
    (entries : List (String × Value)) :
    (Value.upsert name change entries).map (·.1) =
      if name ∈ entries.map (·.1) then entries.map (·.1) else entries.map (·.1) ++ [name] := by
  induction entries with
  | nil => rfl
  | cons entry rest ih =>
    obtain ⟨other, value⟩ := entry
    by_cases hother : other = name
    · simp [Value.upsert, hother]
    · have hmem : name ∈ other :: rest.map (·.1) ↔ name ∈ rest.map (·.1) := by
        simp [Ne.symm hother]
      rw [Value.upsert, if_neg hother, List.map_cons, List.map_cons, ih]
      simp only [hmem]
      split <;> rfl

theorem nodup_map_fst_upsert {entries : List (String × Value)} (h : (entries.map (·.1)).Nodup)
    (name : String) (change : Option Value → Value) :
    ((Value.upsert name change entries).map (·.1)).Nodup := by
  rw [map_fst_upsert]
  split
  · exact h
  · next hnew =>
    refine List.nodup_append.2 ⟨h, by simp, ?_⟩
    rintro held hheld _ hname rfl
    exact hnew (List.mem_singleton.1 hname ▸ hheld)

theorem nodup_members {origin : Origin} {done : List (String × Value)}
    (h : (done.map (·.1)).Nodup) (members : List (String × Json)) :
    ((Format.Json.members origin done members).map (·.1)).Nodup := by
  induction members generalizing done with
  | nil => exact h
  | cons member rest ih => exact ih (nodup_map_fst_upsert h _ _)

/-- The names of the entries are those of the members. -/
theorem mem_names_of_mem_members {origin : Origin} {done : List (String × Value)}
    {members : List (String × Json)} {name : String}
    (h : name ∈ (Format.Json.members origin done members).map (·.1)) :
    name ∈ done.map (·.1) ∨ name ∈ members.map (·.1) := by
  induction members generalizing done with
  | nil => exact .inl h
  | cons member rest ih =>
    rcases ih h with hdone | hrest
    · rw [map_fst_upsert] at hdone
      split at hdone
      · exact .inl hdone
      · rcases List.mem_append.1 hdone with hdone | hname
        · exact .inl hdone
        · exact .inr (List.mem_cons.2 (.inl (List.mem_singleton.1 hname)))
    · exact .inr (List.mem_cons_of_mem _ hrest)

/-- The entries are the last members of their names. -/
theorem entryOf?_members (origin : Origin) (done : List (String × Value))
    (members : List (String × Json)) (name : String) :
    Value.entryOf? name (Format.Json.members origin done members) =
      ((Json.lastMember? name members).map (Format.Json.value origin)).or
        (Value.entryOf? name done) := by
  induction members generalizing done with
  | nil => rfl
  | cons member rest ih =>
    have hstep := Value.entryOf?_upsert member.1 name
      (fun _ => Format.Json.value origin member.2) done
    rw [Json.lastMember?_cons, Format.Json.members, ih, hstep]
    cases Json.lastMember? name rest with
    | some last => rfl
    | none =>
      by_cases hname : member.1 = name
      · simp [hname]
      · simp [hname]

/-- Members that speak of an entry by its plain name alone make entries that do. -/
theorem hasAlone_members {members : List (String × Json)} {name : String} (origin : Origin)
    (h : ∀ member ∈ members, (Key.ofText member.1).touches name = true → member.1 = name) :
    HasAlone (Format.Json.members origin [] members) name where
  plain entry hentry htouches := by
    rcases mem_names_of_mem_members (List.mem_map_of_mem hentry) with hnone | hname
    · nomatch hnone
    · obtain ⟨member, hmember, hsame⟩ := List.mem_map.1 hname
      rw [← hsame] at htouches ⊢
      exact h member hmember htouches
  atMostOne := by
    have hnone : (([] : List (String × Value)).map (·.1)).Nodup := List.nodup_nil
    exact length_filter_le_one (nodup_members hnone members) name

/-! ## Reading an object directly -/

/-- A Json value converts to a host in the same cases either way, and to the same. -/
theorem toOption_hostOf (origin : Origin) (value : Json) :
    (hostOf (Format.Json.value origin value)).toOption = (hostOfJson value).toOption := by
  cases value with
  | str text =>
    simp only [Format.Json.value, hostOf, hostOfJson]
    cases Net.Address.ofText? text <;> rfl
  | num number => cases number with
    | int n =>
      simp only [Format.Json.value, Format.Json.number]
      split <;> rfl
    | real x => rfl
  | null | bool | arr | obj => rfl

/-- A port that is written as an integer: digits, with a minus sign in front of them only if they write
    a number other than zero that 64 bits with a sign hold. -/
def IsInteger (number : Json.Number) : Prop :=
  ∃ negative digits, Json.Grammar.Digits digits ∧
    Json.Numeral.value? ⟨negative, digits, none, none⟩ = some number ∧
    (negative = true →
      0 < Nat.ofDigitChars 10 digits 0 ∧ Nat.ofDigitChars 10 digits 0 ≤ 9223372036854775808)

/-- An integer converts to a port in the same cases either way, and to the same. -/
theorem toOption_portOf {number : Json.Number} (h : IsInteger number) (origin : Origin) :
    (portOf (Format.Json.value origin (.num number))).toOption =
      (portOfJson (.num number)).toOption := by
  obtain ⟨negative, digits, hdigits, hnumber, hnegative⟩ := h
  let n := Nat.ofDigitChars 10 digits 0
  cases negative with
  | true =>
    -- The numeral stands for an integer below zero, which is refused on both ways.
    obtain ⟨hpos, hle⟩ := hnegative rfl
    rw [Json.Numeral.value?_of_negative hpos hle] at hnumber
    obtain rfl := Option.some.inj hnumber
    have hkept : Format.Json.number (.int (-(n : Int))) = .int (-(n : Int)) := by
      rw [Format.Json.number, if_pos (by simp only [Format.Json.tooGreat]; omega)]
    have hloaded : (portOf (Format.Json.value origin (.num (.int (-(n : Int)))))).toOption = none := by
      simp only [Format.Json.value, hkept, portOf, numberOf]
      rw [if_pos (by omega)]
      rfl
    have hread : (portOfJson (.num (.int (-(n : Int))))).toOption = none := by
      simp only [portOfJson]
      rw [if_neg (by omega)]
      rfl
    exact hloaded.trans hread.symm
  | false =>
    -- On both ways the port is the number that the digits write, up to the greatest port.
    obtain ⟨hsmall, hgreat⟩ :=
      portOf_of_writes (Format.writes_json ⟨hdigits, rfl⟩ hnumber) (some origin)
    have hloaded : (portOf (Format.Json.value origin (.num number))).toOption =
        if n ≤ 65535 then some (UInt16.ofNat n) else none := by
      simp only [Format.Json.value]
      rcases Nat.lt_or_ge 65535 n with hn | hn
      · obtain ⟨fault, hfault⟩ := hgreat hn
        rw [if_neg (Nat.not_le.2 hn), hfault]
        rfl
      · rw [if_pos hn, hsmall hn]
        rfl
    have hread : (portOfJson (.num number)).toOption =
        if n ≤ 65535 then some (UInt16.ofNat n) else none := by
      rcases Json.Numeral.value?_of_natural hdigits hnumber with rfl | ⟨hn, x, rfl, -⟩
      · simp only [portOfJson]
        rcases Nat.lt_or_ge 65535 n with hn | hn
        · rw [if_neg (by omega), if_neg (Nat.not_le.2 hn)]
          rfl
        · rw [if_pos (by omega), if_pos hn]
          rfl
      · simp only [Json.Numeral.greatestSignificand] at hn
        rw [if_neg (by omega)]
        rfl
    exact hloaded.trans hread.symm

/-- Two conversions that succeed in the same cases are the parts of listeners that do. -/
theorem toOption_bind_congr {ε δ : Type} {host : Except ε Net.Address} {port : Except ε UInt16}
    {otherHost : Except δ Net.Address} {otherPort : Except δ UInt16}
    (hhost : host.toOption = otherHost.toOption) (hport : port.toOption = otherPort.toOption) :
    (do
      let address ← host
      let number ← port
      return (⟨address, number⟩ : Net.HostPort)).toOption =
    (do
      let address ← otherHost
      let number ← otherPort
      return (⟨address, number⟩ : Net.HostPort)).toOption := by
  cases host <;> cases otherHost <;> cases port <;> cases otherPort <;>
    simp_all [Except.toOption, bind, Except.bind, pure, Except.pure]

/-- No variable of a process or of its file of variables is named after an entry or goes on behind such
    a name. -/
def IsUnset (environment : Environment) (name : String) : Prop :=
  ∀ entry ∈ environment.entries, ¬ ("app__" ++ name).toList <+: (entry.1.map Char.toLower).toList

theorem IsUnset.map_toLower_ne {environment : Environment} {name : String}
    (h : IsUnset environment name) {entry : String × String} (hentry : entry ∈ environment.entries) :
    entry.1.map Char.toLower ≠ "app__" ++ name := fun hsame =>
  h entry hentry ⟨[], by rw [hsame, List.append_nil]⟩

theorem IsUnset.anyCase? {environment : Environment} {name : String} (h : IsUnset environment name) :
    environment.anyCase? ("app__" ++ name) = none := by
  rw [Environment.anyCase?, Option.map_eq_none_iff, List.find?_eq_none]
  exact fun entry hentry hsame => h.map_toLower_ne hentry (of_decide_eq_true hsame)

theorem IsUnset.hasOnce {environment : Environment} {name : String} (h : IsUnset environment name) :
    environment.HasOnce ("app__" ++ name) where
  atMostOne := by
    have hnone : (environment.entries.filter fun entry =>
        entry.1.map Char.toLower = "app__" ++ name) = [] :=
      List.filter_eq_nil_iff.2 fun entry hentry hsame =>
        h.map_toLower_ne hentry (of_decide_eq_true hsame)
    rw [hnone]
    exact Nat.zero_le _
  noLonger entry hentry hstarts := absurd hstarts (h entry hentry)

/-- Without variables the value that counts is the last member of a name. -/
theorem rawValue?_of_isUnset {environment : Environment} {directory : Directory} {name : String}
    (h : IsUnset (extended environment directory.envFile?) name) (origin : Origin)
    (members : List (String × Json)) :
    rawValue? environment directory (Format.Json.members origin [] members) name =
      (Json.lastMember? name members).map (Format.Json.value origin) := by
  rw [rawValue?, anyCase?_extended, h.anyCase?, entryOf?_members]
  simp [Value.entryOf?]

/-- A settings file in Json and the object in it agree on where to listen, if its port is an integer
    and nothing else speaks of the host or the port. -/
theorem toOption_map_listener {environment : Environment} {directory : Directory}
    {name text : String} {members : List (String × Json)} {number : Json.Number}
    (hsettings : directory.settingsFile? = some (.json, name, text))
    (hread : Json.read text = .ok (.obj members))
    (hport : Json.lastMember? "port" members = some (.num number)) (hinteger : IsInteger number)
    (hmembers : ∀ member ∈ members, ∀ entry ∈ ["host", "port"],
      (Key.ofText member.1).touches entry = true → member.1 = entry)
    (hunset : ∀ entry ∈ ["host", "port"],
      IsUnset (extended environment directory.envFile?) entry) :
    (load environment directory).toOption.map (·.listener) =
      (listenerOfJson (.obj members)).toOption := by
  let file := Format.Json.members (.file name) [] members
  have hfile : fileEntries directory.settingsFile? = .ok file := by
    simp only [hsettings, fileEntries, FileFormat.entries, FileFormat.read, Format.Json.read, hread,
      Format.Json.value, file]
  have hsole : ∀ entry ∈ ["host", "port"],
      IsSole (extended environment directory.envFile?) file entry := fun entry hentry =>
    ⟨(hunset entry hentry).hasOnce, hasAlone_members _ fun member hmember =>
      hmembers member hmember entry hentry⟩
  have hload := map_listener_load_of_isSole hfile (hsole "host" (by simp)) (hsole "port" (by simp))
  rw [rawValue?_of_isUnset (hunset "host" (by simp)), rawValue?_of_isUnset (hunset "port" (by simp)),
    hport] at hload
  have hhost : (convert hostOf defaultHost
      ((Json.lastMember? "host" members).map (Format.Json.value (.file name)))).toOption =
      (member hostOfJson defaultHost "host" members).toOption := by
    unfold member
    cases Json.lastMember? "host" members with
    | some value => exact toOption_hostOf _ value
    | none => rfl
  have hnumber : (convert portOf defaultPort
      ((some (.num number)).map (Format.Json.value (.file name)))).toOption =
      (member portOfJson defaultPort "port" members).toOption := by
    rw [member, hport]
    exact toOption_portOf hinteger _
  have hmap : (load environment directory).toOption.map (·.listener) =
      ((load environment directory).map (·.listener)).toOption := by
    cases load environment directory <;> rfl
  rw [hmap, hload]
  exact toOption_bind_congr hhost hnumber

/-! ## Sources of a port -/

/-- The first source that has a port has it as a number: the variables of the process in digits, those of
    the file of variables in digits, or the settings file as one of its readers gives it. -/
inductive PortIsWritten (environment : Environment) (directory : Directory)
    (file : List (String × Value)) (n : Nat) : Prop
  | inProcess {text : String} (h : environment.anyCase? "app__port" = some text)
      (hdigits : IsDecimal text.toList n)
  | inEnvFile {text : String} (hprocess : environment.anyCase? "app__port" = none)
      (h : (extended environment directory.envFile?).anyCase? "app__port" = some text)
      (hdigits : IsDecimal text.toList n)
  | inSettingsFile {origin : Option Origin} {scalar : Scalar}
      (hvariables : (extended environment directory.envFile?).anyCase? "app__port" = none)
      (h : Value.entryOf? "port" file = some (.scalar origin scalar)) (hwrites : Writes n scalar)

/-- The value that counts is the one that is written. -/
theorem PortIsWritten.rawValue? {environment : Environment} {directory : Directory}
    {file : List (String × Value)} {n : Nat} (h : PortIsWritten environment directory file n) :
    ∃ origin scalar, rawValue? environment directory file "port" = some (.scalar origin scalar) ∧
      Writes n scalar := by
  cases h with
  | @inProcess text h hdigits =>
    refine ⟨some .environment, .text text, ?_, .digits hdigits⟩
    rw [Settings.rawValue?, show environment.anyCase? ("app__" ++ "port") = some text from h]
    rfl
  | @inEnvFile text hprocess h hdigits =>
    refine ⟨some .environment, .text text, ?_, .digits hdigits⟩
    rw [Settings.rawValue?, anyCase?_extended, show Environment.anyCase? _ ("app__" ++ "port") = _ from h]
    rfl
  | @inSettingsFile origin scalar hvariables h hwrites =>
    refine ⟨origin, scalar, ?_, hwrites⟩
    rw [Settings.rawValue?, anyCase?_extended,
      show Environment.anyCase? _ ("app__" ++ "port") = _ from hvariables, h]
    rfl

/-- A port is used as it is written or refused.  A settings file that cannot be read is a configuration
    fault.  A port that is written as a number, be it in a variable or in the settings file, is the one
    that is loaded, if the host converts, or is a configuration fault if it is beyond 65535.  And a
    settings file in Json is loaded as the same object is read directly: they agree on where to
    listen, or on failing, if no other source speaks of host and port and the port is an integer that
    is neither a zero with a minus sign nor below the integers of 64 bits.  A number that is written as
    an integer in a settings file of whatever format is one of those that this is about, and up to the
    greatest integer of 64 bits with a sign the format has it. -/
theorem port_used_or_refused (environment : Environment) (directory : Directory) :
    (∀ fault, fileEntries directory.settingsFile? = .error fault →
      load environment directory = .error fault ∧ fault.fault = .config (.root fault.message)) ∧
    (∀ file n, fileEntries directory.settingsFile? = .ok file →
      IsSole (extended environment directory.envFile?) file "host" →
      IsSole (extended environment directory.envFile?) file "port" →
      (∃ address,
        convert hostOf defaultHost (rawValue? environment directory file "host") = .ok address) →
      PortIsWritten environment directory file n →
      (n ≤ 65535 → ∃ settings, load environment directory = .ok settings ∧
        settings.listener.port.toNat = n) ∧
      (65535 < n → ∃ fault, load environment directory = .error fault ∧
        fault.fault = .config (.root fault.message))) ∧
    (∀ name text, directory.settingsFile? = some (.json, name, text) →
      (∀ entry ∈ ["host", "port"], IsUnset (extended environment directory.envFile?) entry) →
      (∀ json, Json.read text = .ok json → ∃ members number, json = .obj members ∧
        Json.lastMember? "port" members = some (.num number) ∧ IsInteger number ∧
        ∀ member ∈ members, ∀ entry ∈ ["host", "port"],
          (Key.ofText member.1).touches entry = true → member.1 = entry) →
      (load environment directory).toOption.map (·.listener) =
        (Json.read text).toOption.bind fun json => (listenerOfJson json).toOption) ∧
    (∀ (format : FileFormat) text n, IsDecimal text.toList n →
      (n < 9223372036854775808 → ∃ scalar, format.Gives text scalar) ∧
      ∀ scalar, format.Gives text scalar → Writes n scalar) := by
  refine ⟨fun fault hfault => ⟨?_, rfl⟩, ?_, ?_, fun format text n h =>
    ⟨fun hn => exists_gives h hn format, fun scalar => writes_of_gives h⟩⟩
  · rw [load, hfault]
    rfl
  · intro file n hfile hhost hport haddress hwritten
    obtain ⟨origin, scalar, hvalue, hwrites⟩ := hwritten.rawValue?
    exact load_of_writes hfile hhost hport haddress hvalue hwrites
  · intro name text hsettings hunset hjson
    cases hread : Json.read text with
    | error fault =>
      -- A text that is no Json is refused on both ways.
      have hfault : fileEntries directory.settingsFile? =
          .error (.unreadable (fault.message text) name) := by
        simp only [hsettings, fileEntries, FileFormat.entries, FileFormat.read, Format.Json.read, hread]
      rw [load, hfault]
      rfl
    | ok json =>
      obtain ⟨members, number, rfl, hport, hinteger, hmembers⟩ := hjson json hread
      exact toOption_map_listener hsettings hread hport hinteger hmembers hunset

/-- A port of the process with a zero in front, over one of the file of variables; and one in Json that
    is by one too great. -/
theorem port_of_process_and_of_json :
    let environment : Environment := ⟨[("APP__PORT", "08080")]⟩
    let directory : Directory := ⟨[([".env"], "app__host=::1\nAPP__PORT=1\n".toUTF8)], []⟩
    let text := "\x7b\"port\":65536\x7d"
    let inJson : Directory := ⟨[(["configuration.json"], text.toUTF8)], []⟩
    (∃ settings, load environment directory = .ok settings ∧ settings.listener.port.toNat = 8080) ∧
      (load ⟨[]⟩ inJson).toOption.map (·.listener) =
        (Json.read text).toOption.bind fun json => (listenerOfJson json).toOption := by
  intro environment directory text inJson
  have hvariables : extended environment directory.envFile? =
      ⟨[("APP__PORT", "08080"), ("app__host", "::1")]⟩ := by decide +kernel
  have hfile : fileEntries directory.settingsFile? = .ok [] := by
    have hnone : directory.settingsFile? = none := by decide +kernel
    rw [hnone]
    rfl
  have hsole : ∀ entry ∈ ["host", "port"],
      IsSole (extended environment directory.envFile?) [] entry := by
    intro entry hentry
    rw [hvariables]
    refine ⟨⟨?_, ?_⟩, ⟨fun _ hnone => absurd hnone List.not_mem_nil, Nat.zero_le _⟩⟩
    · revert entry
      decide +kernel
    · revert entry
      decide +kernel
  have hhost : rawValue? environment directory [] "host" = some (ofVariable "::1") := by
    have hfound : Environment.anyCase? ⟨[("APP__PORT", "08080"), ("app__host", "::1")]⟩
        ("app__" ++ "host") = some "::1" := by decide +kernel
    rw [rawValue?, anyCase?_extended, hvariables, hfound]
    rfl
  have haddress : ∃ address,
      convert hostOf defaultHost (rawValue? environment directory [] "host") = .ok address := by
    obtain ⟨address, htext⟩ : ∃ address, Net.Address.ofText? "::1" = some address :=
      Option.isSome_iff_exists.1 (by decide +kernel)
    refine ⟨address, ?_⟩
    rw [hhost]
    simp only [convert, ofVariable, hostOf, htext]
  have hdigits : IsDecimal "08080".toList 8080 := ⟨by decide, by decide⟩
  have hwritten : PortIsWritten environment directory [] 8080 :=
    .inProcess (by decide +kernel) hdigits
  have hnumeral : Json.Numeral.value? ⟨false, "65536".toList, none, none⟩ = some (.int 65536) := by
    decide +kernel
  have hread : Json.read text = .ok (.obj [("port", .num (.int 65536))]) := by
    refine Json.read_of_isText ?_
    have hwritten : text.toList = Json.write (.obj [("port", .num (.int 65536))]) := by
      decide +kernel
    rw [hwritten]
    refine Json.derives_element (Json.derives_write_obj fun member hmember => ?_)
    obtain rfl := List.mem_singleton.1 hmember
    have hinteger : Json.Grammar.IntegerText "65536".toList := ⟨by decide, by decide⟩
    have htext : Json.Grammar.NumeralText ("65536".toList ++ ([] ++ []))
        ⟨false, "65536".toList, none, none⟩ := .positive rfl (.mk hinteger .absent .absent)
    exact .number htext hnumeral
  have hinteger : IsInteger (.int 65536) :=
    ⟨false, "65536".toList, by decide, hnumeral, fun h => absurd h (by decide)⟩
  obtain ⟨-, hused, -⟩ := port_used_or_refused environment directory
  obtain ⟨hport, -⟩ := hused [] 8080 hfile (hsole "host" (by simp)) (hsole "port" (by simp)) haddress
    hwritten
  obtain ⟨-, -, hsame, -⟩ := port_used_or_refused ⟨[]⟩ inJson
  refine ⟨hport (by decide), hsame "configuration.json" text (by decide +kernel) ?_ ?_⟩
  · intro entry _ set hset
    have hnone : (extended ⟨[]⟩ inJson.envFile?).entries = [] := by decide +kernel
    rw [hnone] at hset
    cases hset
  · intro json hjson
    rw [hread] at hjson
    obtain rfl := Except.ok.inj hjson
    refine ⟨_, _, rfl, rfl, hinteger, fun member hmember entry _ htouches => ?_⟩
    obtain rfl := List.mem_singleton.1 hmember
    have hname : Key.IsName "port" := by decide
    rw [hname.touches_ofText] at htouches
    exact of_decide_eq_true htouches

/-- Outside of these bounds the two ways of reading an object differ: an integer below those of 64 bits
    and a zero with a minus sign are loaded as rounded numbers but read directly as no port, and names
    are told apart by case in an object alone. -/
theorem json_loaded_otherwise_than_read :
    let loaded (text : String) : Option UInt16 :=
      (load ⟨[]⟩ ⟨[(["configuration.json"], text.toUTF8)], []⟩).toOption.map (·.listener.port)
    let read (text : String) : Option UInt16 :=
      ((Json.read text).toOption.bind fun json => (listenerOfJson json).toOption).map (·.port)
    (loaded "\x7b\"port\":-9223372036854775809\x7d" = some 0 ∧
      read "\x7b\"port\":-9223372036854775809\x7d" = none) ∧
    (loaded "\x7b\"port\":-0\x7d" = some 0 ∧ read "\x7b\"port\":-0\x7d" = none) ∧
    (loaded "\x7b\"port\":8080,\"HOST\":\"nonsense\"\x7d" = none ∧
      read "\x7b\"port\":8080,\"HOST\":\"nonsense\"\x7d" = some 8080) := by
  decide +kernel

end CardServer.Settings
